import DeviceCatalog.Text.Emoji
import DeviceCatalog.Text.Width

/-!
The number of terminal columns that a line takes. It is the sum over the characters, except where
some of them are shown as one: emoji that are joined, or have a skin tone or a style, and the
ligatures of some scripts. Lines are measured from their end, so that it is known of each
character what follows it.
-/

namespace DeviceCatalog.Text

inductive LigatureEnd where
  | hebrewLamed
  | bugineseYa
  /-- The vowel sign in front of that letter. -/
  | bugineseSign
  | tifinaghConsonant
  /-- A consonant with the mark that joins two of them in front of it. -/
  | tifinaghJoined
  | lisuTone
  | turkicI
  | khmerLetter
deriving DecidableEq

/-- What a character may merge with if it stands in front of it. -/
inductive Follower where
  | other
  | skinTone
  /-- One letter of a flag. -/
  | flagLetter
  | flagLetters
  | picture
  /-- A picture with a joiner in front of it, as in all the cases down to the tags. -/
  | joined
  | joinedKeycap
  | joinedFlagLetter
  | joinedFlag
  /-- A flag, and a letter in front of it that needs another one. -/
  | joinedFlagAndLetter
  /-- So many letters and digits of the tag that names the flag of a region. -/
  | joinedTag (letters digits : Nat)
  | kiratRaiE
  | kiratRaiAi
  | arabicAlef
  /-- The end of a ligature, and whether a joiner is in front of it. -/
  | ligature (last : LigatureEnd) (isJoined : Bool)
deriving DecidableEq

/-- What the character right after this one says about its style. -/
inductive AskedStyle where
  | none
  | text
  | picture
deriving DecidableEq

structure Following where
  follower : Follower := .other
  style : AskedStyle := .none

def joiner : Char := '\u200D'

/-- The marks that may stand anywhere within a ligature. -/
def isLigatureMark (char : Char) : Bool :=
  let points : CodePoints := #[(0x34F, 0x34F), (0x17B4, 0x17B5), (0x180B, 0x180D),
    (0x180F, 0x180F), (0xFE00, 0xFE0F), (0xE0100, 0xE01EF)]
  points.contains char

def isArabicAlef (char : Char) : Bool :=
  let points : CodePoints := #[(0x622, 0x623), (0x625, 0x625), (0x627, 0x627), (0x671, 0x673),
    (0x675, 0x675), (0x773, 0x774), (0x870, 0x882)]
  points.contains char

def isArabicLam (char : Char) : Bool :=
  let points : CodePoints := #[(0x644, 0x644), (0x6B5, 0x6B8), (0x76A, 0x76A), (0x8A6, 0x8A6),
    (0x8C7, 0x8C7)]
  points.contains char

def isTifinaghConsonant (char : Char) : Bool :=
  '\u2D31' ≤ char && char ≤ '\u2D65' || char == '\u2D6F'

/-- The letters that have a form below another letter. -/
def isKhmerLetter (char : Char) : Bool :=
  let points : CodePoints := #[(0x1780, 0x1782), (0x1784, 0x1787), (0x1789, 0x178C),
    (0x178E, 0x1793), (0x1795, 0x1798), (0x179B, 0x179D), (0x17A0, 0x17A0), (0x17A2, 0x17A2),
    (0x17A7, 0x17A7), (0x17AB, 0x17AC), (0x17AF, 0x17AF)]
  points.contains char

def LigatureEnd.ofChar? (char : Char) : Option LigatureEnd :=
  if char = '\u05DC' then some .hebrewLamed
  else if char = '\u1A10' then some .bugineseYa
  else if isTifinaghConsonant char then some .tifinaghConsonant
  else if char = '\uA4FC' || char = '\uA4FD' then some .lisuTone
  else if char.toNat = 0x10C03 then some .turkicI
  else if isKhmerLetter char then some .khmerLetter
  else none

namespace Follower

/-- What a character is for the one in front of it. -/
def ofChar (char : Char) : Follower :=
  if isSkinTone char then .skinTone
  else if isFlagLetter char then .flagLetter
  else if isPicture char then .picture
  else if isArabicAlef char then .arabicAlef
  else if char.toNat = 0x16D67 then .kiratRaiE
  else if char.toNat = 0x16D68 then .kiratRaiAi
  else match LigatureEnd.ofChar? char with
    | some last => .ligature last false
    | none => .other

/-- Whether a mark for a style does not come between a character and what follows it. -/
def outlastsStyle : Follower → Bool
  | arabicAlef | ligature .. => true
  | _ => false

/-- How many columns a letter or mark adds in front of the rest of a ligature, and what it is
itself for the one in front of it. -/
def ligatureStep? (char : Char) : LigatureEnd → Bool → Option (Int × Follower)
  | .hebrewLamed, true => if char = '\u05D0' then some (0, other) else none
  | .bugineseYa, true => if char = '\u1A17' then some (0, ligature .bugineseSign true) else none
  | .bugineseSign, _ => if char = '\u1A15' then some (0, other) else none
  | .tifinaghConsonant, isJoined =>
    if char = '\u2D7F' then some (1, ligature .tifinaghJoined true)
    else if isJoined && isTifinaghConsonant char then some (0, other)
    else none
  | .tifinaghJoined, _ => if isTifinaghConsonant char then some (-1, other) else none
  | .lisuTone, _ => if '\uA4F8' ≤ char && char ≤ '\uA4FB' then some (0, other) else none
  | .turkicI, true => if char.toNat = 0x10C32 then some (0, other) else none
  | .khmerLetter, _ => if char = '\u17D2' then some (-1, other) else none
  | _, false => none

/-- The same for a flag that is named by a tag, whose end stands in front of a joined picture. -/
def tagStep? (char : Char) (letters digits : Nat) : Option (Int × Follower) :=
  let code := char.toNat
  if 0xE0061 ≤ code && code ≤ 0xE007A then
    if digits = 0 && letters < 6 then some (0, joinedTag (letters + 1) 0) else none
  else if 0xE0030 ≤ code && code ≤ 0xE0039 then
    if digits = 0 && letters ≤ 4 || digits = 1 || digits = 2 then
      some (0, joinedTag letters (digits + 1))
    else none
  else if code = 0x1F3F4 then
    if digits = 3 || digits = 0 && 3 ≤ letters then some (0, picture) else none
  else none

/-- The same in front of a picture that has a joiner in front of it. -/
def joinedStep? (char : Char) : Option (Int × Follower) :=
  if char = '\u20E3' then some (0, joinedKeycap)
  else if isFlagLetter char then some (1, joinedFlagLetter)
  else if isSkinTone char then some (0, skinTone)
  else if char.toNat = 0xE007F then some (0, joinedTag 0 0)
  else if isPicture char then some (0, picture)
  else none

/-- The same in front of anything, if the character merges with it. -/
def step? (char : Char) : Follower → Option (Int × Follower)
  | other | joinedKeycap => none
  | skinTone =>
    if takesSkinTone char then some (0, picture)
    else if char = joiner then some (0, joined)
    else none
  | flagLetter => if isFlagLetter char then some (1, flagLetters) else none
  | flagLetters =>
    if isFlagLetter char then some (1, flagLetters)
    else if char = joiner then some (0, joined)
    else none
  | picture => if char = joiner then some (0, joined) else none
  | joined => joinedStep? char
  | joinedFlagLetter => if isFlagLetter char then some (-1, joinedFlag) else none
  | joinedFlag =>
    if isFlagLetter char then some (3, joinedFlagAndLetter)
    else if char = joiner then some (0, joined)
    else none
  | joinedFlagAndLetter =>
    if isFlagLetter char then some (-1, joinedFlag)
    else if char = joiner then some (0, joined)
    else none
  | joinedTag letters digits => tagStep? char letters digits
  | kiratRaiE =>
    if char.toNat = 0x16D63 || char.toNat = 0x16D69 then some (0, other)
    else if char.toNat = 0x16D67 then some (0, kiratRaiAi)
    else if char.toNat = 0x16D68 then some (1, kiratRaiE)
    else none
  | kiratRaiAi => if char.toNat = 0x16D63 then some (0, other) else none
  | arabicAlef =>
    if isArabicLam char then some (0, other)
    else if isJoiningTransparent char then some (0, arabicAlef)
    else none
  | ligature last isJoined =>
    if char = joiner then some (0, ligature last true)
    else if isLigatureMark char then some (0, ligature last isJoined)
    else ligatureStep? char last isJoined

end Follower

namespace Following

/-- What is left of what follows when a mark for a style is put in front of it. -/
def styled (following : Following) (style : AskedStyle) : Following :=
  let isKept := following.follower.outlastsStyle ||
    style = .picture && (following.follower = .joined || following.follower = .joinedKeycap)
  { follower := if isKept then following.follower else .other, style }

/-- What is left of what follows when the mark for a style has no effect on the character. -/
def unstyled (following : Following) : Follower :=
  if following.style = .none || following.follower.outlastsStyle then following.follower
  else .other

/-- How many columns a character adds to what follows it, and what then follows the one in front
of it. -/
def before (char : Char) (following : Following) : Int × Following :=
  let isJoined := following.follower = .joined || following.follower = .joinedKeycap
  if following.style = .picture && takesPictureStyle char then
    (if isJoined then 0 else 2, { follower := .picture })
  else if char.toNat ≤ 0xA0 then (1, {})
  else if char = '\uFE0F' then (0, styled { follower := following.unstyled } .picture)
  else if char = '\uFE0E' then (0, styled { follower := following.unstyled } .text)
  else if following.style = .text && takesTextStyle char then (1, {})
  else
    let (columns, follower) :=
      (following.unstyled.step? char).getD (charColumns char, .ofChar char)
    (columns, { follower })

end Following

def columns (line : List Char) : Nat :=
  let (total, _) := line.foldr (fun char (rest : Int × Following) =>
    let (added, following) := rest.2.before char
    (added + rest.1, following)) (0, {})
  total.toNat

end DeviceCatalog.Text
