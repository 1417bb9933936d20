import DeviceCatalog.Proofs.Narrowing
import DeviceCatalog.Proofs.OfferedPaths

/-!
# Variants are restrictions

Matching asks a device type for its class and for each of its services alone, unless all atoms have
to match. So it makes no difference whether services are taken away before a device type is matched
or after: the variant of a service group is matched as the whole is, restricted to the services
that belong to the variant. Where ungrouped services belong to every variant, nothing is lost by
looking at the variants of all groups that are used.
-/

namespace DeviceCatalog

/-! ### Restricting -/

namespace IdMap

variable {Value : Type}

/-- The part of a map that stands under some of its keys. -/
def restrict (map : IdMap Value) (kept : String → Bool) : IdMap Value :=
  ⟨map.entries.filter fun entry => kept entry.1,
    map.ascending.sublist (List.filter_sublist.map Prod.fst)⟩

theorem get?_restrict_eq_some_iff {map : IdMap Value} {kept : String → Bool} {key : String}
    {value : Value} :
    (map.restrict kept).get? key = some value ↔ kept key = true ∧ map.get? key = some value := by
  rw [get?_eq_some_iff, get?_eq_some_iff, restrict, List.mem_filter, and_comm]

end IdMap

namespace Selectable

/-- What is left of a selectable under another id when only some of its services are kept. -/
def restrict (selectable : Selectable) (id : String) (kept : Service → Bool) : Selectable where
  deviceTypeId := id
  services := selectable.services.filter kept
  pathOptions := selectable.pathOptions.restrict fun serviceId =>
    (selectable.services.filter kept).any (·.id = serviceId)

end Selectable

/-- A part of a device type has the same class and some of its services. -/
structure DeviceType.IsPartOf (part whole : DeviceType) (kept : Service → Bool) : Prop where
  deviceClassId : part.deviceClassId = whole.deviceClassId
  services : part.services = whole.services.filter kept

theorem DeviceType.IsPartOf.deviceClass?_eq {part whole : DeviceType} {kept : Service → Bool}
    (hpart : part.IsPartOf whole kept) : part.deviceClass? = whole.deviceClass? := by
  rw [DeviceType.deviceClass?, hpart.deviceClassId, DeviceType.deviceClass?]

/-! ### Matching a part -/

namespace MatchContext

variable {context : MatchContext} {criteria : List FilterCriteria} {part whole : DeviceType}
  {kept : Service → Bool} {service : Service} {atom : FilterCriteria} {options : MatchOptions}

theorem servedFunction?_part (hpart : part.IsPartOf whole kept) :
    context.servedFunction? part service atom = context.servedFunction? whole service atom := by
  have hclass (kind : FunctionKind) : admitsClass kind atom part = admitsClass kind atom whole := by
    unfold admitsClass
    rw [hpart.deviceClass?_eq]
  simp only [servedFunction?, hclass]

theorem holds_part (hpart : part.IsPartOf whole kept) :
    context.holds part service atom = context.holds whole service atom := by
  unfold holds servingVariables
  rw [servedFunction?_part hpart, hpart.deviceClass?_eq]

theorem serviceOptions_part (hpart : part.IsPartOf whole kept) (lead : String) :
    context.serviceOptions criteria part lead service =
      context.serviceOptions criteria whole lead service := by
  have hatoms : context.atomOptions part service (service.locate lead) =
      context.atomOptions whole service (service.locate lead) := by
    funext atom
    simp only [atomOptions, servedFunction?_part hpart]
  rw [serviceOptions, hatoms]
  rfl

theorem selectedServices_part (hpart : part.IsPartOf whole kept) :
    context.selectedServices criteria part options =
      (context.selectedServices criteria whole options).filter kept := by
  have hholds : context.holds part = context.holds whole := by
    funext service atom
    exact holds_part hpart
  rw [selectedServices, selectedServices, hpart.services, hholds, List.filter_filter,
    List.filter_filter]
  simp only [Bool.and_comm]

theorem pathOptions_part (hpart : part.IsPartOf whole kept)
    (hdistinct : (whole.services.map (·.id)).Nodup) (id : String) :
    (context.answer criteria part options).pathOptions =
      ((context.answer criteria whole options).restrict id kept).pathOptions := by
  have hpartDistinct : (part.services.map (·.id)).Nodup := by
    rw [hpart.services]
    exact hdistinct.sublist (List.filter_sublist.map _)
  refine IdMap.ext_get? fun key => Option.ext fun found => ?_
  rw [get?_pathOptions_eq_some_iff hpartDistinct, selectedServices_part hpart, Selectable.restrict,
    IdMap.get?_restrict_eq_some_iff, List.any_eq_true, get?_pathOptions_eq_some_iff hdistinct]
  simp only [List.mem_filter, serviceOptions_part hpart, decide_eq_true_eq]
  constructor
  · rintro ⟨service, ⟨hservice, hkept⟩, hkey, hfound⟩
    exact ⟨⟨service, ⟨hservice, hkept⟩, hkey⟩, service, hservice, hkey, hfound⟩
  · rintro ⟨⟨service, ⟨hservice, hkept⟩, hkey⟩, other, hother, hotherKey, hfound⟩
    -- Both services have the id, so what is kept under it is what was offered for it.
    have hsame : service = other :=
      List.inj_on_of_nodup_map hdistinct (List.mem_of_mem_filter hservice)
        (List.mem_of_mem_filter hother) (hkey.trans hotherKey.symm)
    exact ⟨service, ⟨hservice, hkept⟩, hkey, hsame ▸ hfound⟩

/-- What is answered for a part is what is answered for the whole, restricted. -/
theorem answer_part (hpart : part.IsPartOf whole kept)
    (hdistinct : (whole.services.map (·.id)).Nodup) :
    context.answer criteria part options =
      (context.answer criteria whole options).restrict part.id kept := by
  calc context.answer criteria part options
    _ = { deviceTypeId := part.id
          services := context.selectedServices criteria part options
          pathOptions := (context.answer criteria part options).pathOptions } := rfl
    _ = (context.answer criteria whole options).restrict part.id kept := by
      rw [pathOptions_part hpart hdistinct part.id, selectedServices_part hpart]
      rfl

/-- Where one atom is enough, a part is matched as the whole is, restricted, if anything is left. -/
theorem matchDeviceType?_part (hpart : part.IsPartOf whole kept)
    (hdistinct : (whole.services.map (·.id)).Nodup) (hany : options.mustMatchAll = false)
    {selectable : Selectable} :
    context.matchDeviceType? criteria part options = some selectable ↔
      ∃ base, context.matchDeviceType? criteria whole options = some base ∧
        base.restrict part.id kept = selectable ∧ selectable.services ≠ [] := by
  simp only [matchDeviceType?_eq_some_iff_of_any hany]
  rw [answer_part hpart hdistinct]
  constructor
  · rintro ⟨rfl, hleft⟩
    refine ⟨_, ⟨rfl, ?_⟩, rfl, hleft⟩
    exact fun hnone => hleft (by rw [Selectable.restrict, hnone, List.filter_nil])
  · rintro ⟨_, ⟨rfl, _⟩, hrestrict, hleft⟩
    exact ⟨hrestrict, hleft⟩

end MatchContext

/-! ### Matching variants -/

theorem DeviceType.mem_usedGroupKeys {deviceType : DeviceType} {key : String} :
    key ∈ deviceType.usedGroupKeys ↔
      ∃ service ∈ deviceType.services, service.group? = some key := by
  have hused : key ∈ deviceType.usedGroupKeys.map (fun key => key) ↔
      key ∈ (deviceType.services.filterMap Service.group?).map (fun key => key) :=
    mem_map_distinctOn_iff
  rwa [List.map_id', List.map_id', List.mem_filterMap] at hused

namespace NarrowingConfig

variable {config : NarrowingConfig} {context : MatchContext} {criteria : List FilterCriteria}
  {deviceType variant : DeviceType} {service : Service} {key : String} {options : MatchOptions}

theorem keeps_eq_true_iff :
    config.keeps key service = true ↔
      service.group? = some key ∨ service.group? = none ∧ config.exactMatch = false := by
  unfold keeps
  cases service.group? <;> simp

/-- What a selectable of the whole device type says about the variant of a group: the services of
the group are kept and, unless only exact matches are wanted, the ungrouped ones. -/
def restriction (config : NarrowingConfig) (deviceType : DeviceType) (key : String)
    (base : Selectable) : Selectable :=
  base.restrict (CompositeId.serviceGroup (CompositeId.pureId deviceType.id) key) fun service =>
    service.group? = some key ∨ service.group? = none ∧ config.exactMatch = false

theorem restriction_eq_restrict (hvariant : config.narrowDeviceType deviceType key = .ok variant)
    (base : Selectable) :
    config.restriction deviceType key base = base.restrict variant.id (config.keeps key) := by
  have hkeeps : config.keeps key = fun service =>
      decide (service.group? = some key ∨ service.group? = none ∧ config.exactMatch = false) := by
    funext service
    rw [Bool.eq_iff_iff, keeps_eq_true_iff, decide_eq_true_eq]
  rw [restriction, id_of_narrowDeviceType hvariant, hkeeps]

theorem isPartOf_of_narrowDeviceType
    (hvariant : config.narrowDeviceType deviceType key = .ok variant) :
    variant.IsPartOf deviceType (config.keeps key) := by
  obtain ⟨_, _, rfl⟩ := narrowDeviceType_eq_ok_iff.1 hvariant
  exact ⟨rfl, rfl⟩

theorem exists_narrowDeviceType_eq_ok {group : ServiceGroup}
    (hgroup : config.resolveGroup deviceType key = .ok group) :
    ∃ variant, config.narrowDeviceType deviceType key = .ok variant :=
  ⟨_, narrowDeviceType_eq_ok_iff.2 ⟨group, hgroup, rfl⟩⟩

/-- Where ungrouped services belong to every variant, each service belongs to a variant of some
group that is used. -/
theorem exists_keeps (hexact : config.exactMatch = false) (hused : deviceType.usedGroupKeys ≠ [])
    (hservice : service ∈ deviceType.services) :
    ∃ key ∈ deviceType.usedGroupKeys, config.keeps key service = true := by
  cases hgroup : service.group? with
  | none =>
    obtain ⟨key, hkey⟩ := List.exists_mem_of_ne_nil _ hused
    exact ⟨key, hkey, keeps_eq_true_iff.2 (Or.inr ⟨hgroup, hexact⟩)⟩
  | some key =>
    exact ⟨key, DeviceType.mem_usedGroupKeys.2 ⟨service, hservice, hgroup⟩,
      keeps_eq_true_iff.2 (Or.inl hgroup)⟩

/-- A variant is matched as the whole is, restricted, if anything is left. -/
theorem matchDeviceType?_eq_some_iff_restriction (hany : options.mustMatchAll = false)
    (hdistinct : (deviceType.services.map (·.id)).Nodup)
    (hvariant : config.narrowDeviceType deviceType key = .ok variant) {selectable : Selectable} :
    context.matchDeviceType? criteria variant options = some selectable ↔
      ∃ base, context.matchDeviceType? criteria deviceType options = some base ∧
        config.restriction deviceType key base = selectable ∧ selectable.services ≠ [] := by
  rw [MatchContext.matchDeviceType?_part (isPartOf_of_narrowDeviceType hvariant) hdistinct hany]
  simp only [restriction_eq_restrict hvariant]

theorem matchDeviceType?_eq_none_iff_restriction (hany : options.mustMatchAll = false)
    (hdistinct : (deviceType.services.map (·.id)).Nodup)
    (hvariant : config.narrowDeviceType deviceType key = .ok variant) :
    context.matchDeviceType? criteria variant options = none ↔
      context.matchDeviceType? criteria deviceType options = none ∨
        ∃ base, context.matchDeviceType? criteria deviceType options = some base ∧
          (config.restriction deviceType key base).services = [] := by
  rw [Option.eq_none_iff_forall_ne_some]
  simp only [ne_eq, matchDeviceType?_eq_some_iff_restriction hany hdistinct hvariant]
  cases context.matchDeviceType? criteria deviceType options with
  | none => simp
  | some base => simp

/-- What is offered for a service of the whole is offered by each variant that keeps it. -/
theorem exists_variant_of_get? (hany : options.mustMatchAll = false)
    (hdistinct : (deviceType.services.map (·.id)).Nodup)
    (hexact : config.exactMatch = false) (hused : deviceType.usedGroupKeys ≠ [])
    (hresolve : ∀ key ∈ deviceType.usedGroupKeys,
      ∃ group, config.resolveGroup deviceType key = .ok group)
    {base : Selectable}
    (hbase : context.matchDeviceType? criteria deviceType options = some base) {id : String}
    {found : List PathOption} (hfound : base.pathOptions.get? id = some found) :
    ∃ variant ∈ config.variants deviceType, ∃ selectable,
      context.matchDeviceType? criteria variant options = some selectable ∧
        selectable.pathOptions.get? id = some found := by
  obtain ⟨_, _, hanswer⟩ := MatchContext.matchDeviceType?_eq_some_iff.1 hbase
  have hfiled := hfound
  rw [← hanswer, MatchContext.get?_pathOptions_eq_some_iff hdistinct] at hfiled
  obtain ⟨service, hservice, hid, _⟩ := hfiled
  obtain ⟨key, hkey, hkeeps⟩ := exists_keeps hexact hused (List.mem_of_mem_filter hservice)
  obtain ⟨group, hgroup⟩ := hresolve key hkey
  obtain ⟨variant, hvariant⟩ := exists_narrowDeviceType_eq_ok hgroup
  have hkept : service ∈ (config.restriction deviceType key base).services := by
    rw [restriction_eq_restrict hvariant, Selectable.restrict, List.mem_filter, ← hanswer]
    exact ⟨hservice, hkeeps⟩
  refine ⟨variant, mem_variants.2 ⟨key, hkey, hvariant⟩, _,
    (matchDeviceType?_eq_some_iff_restriction hany hdistinct hvariant).2
      ⟨base, hbase, rfl, List.ne_nil_of_mem hkept⟩, ?_⟩
  rw [restriction, Selectable.restrict, IdMap.get?_restrict_eq_some_iff]
  exact ⟨List.any_eq_true.2 ⟨service, hkept, decide_eq_true hid⟩, hfound⟩

/-- **Variants are restrictions, and together they are the whole.** Let the services of a device
type have distinct ids, and let one atom be enough. For a key whose group resolves, the variant is
matched as the whole is, restricted to the variant, and is not matched if the whole is not or if
nothing is left. If ungrouped services belong to every variant, some group is used, and all that
are used resolve, then what is offered for the whole is what is offered for its variants. -/
theorem matchDeviceType?_variants (config : NarrowingConfig) (context : MatchContext)
    (criteria : List FilterCriteria) (hany : options.mustMatchAll = false)
    (hdistinct : (deviceType.services.map (·.id)).Nodup) :
    (∀ key group, config.resolveGroup deviceType key = .ok group →
      ∃ variant, config.narrowDeviceType deviceType key = .ok variant ∧
        (∀ selectable, context.matchDeviceType? criteria variant options = some selectable ↔
          ∃ base, context.matchDeviceType? criteria deviceType options = some base ∧
            config.restriction deviceType key base = selectable ∧ selectable.services ≠ []) ∧
        (context.matchDeviceType? criteria variant options = none ↔
          context.matchDeviceType? criteria deviceType options = none ∨
            ∃ base, context.matchDeviceType? criteria deviceType options = some base ∧
              (config.restriction deviceType key base).services = [])) ∧
    (config.exactMatch = false → deviceType.usedGroupKeys ≠ [] →
      (∀ key ∈ deviceType.usedGroupKeys,
        ∃ group, config.resolveGroup deviceType key = .ok group) →
      ∀ id found,
        (∃ variant ∈ config.variants deviceType, ∃ selectable,
          context.matchDeviceType? criteria variant options = some selectable ∧
            selectable.pathOptions.get? id = some found) ↔
        ∃ base, context.matchDeviceType? criteria deviceType options = some base ∧
          base.pathOptions.get? id = some found) := by
  constructor
  · intro key group hgroup
    obtain ⟨variant, hvariant⟩ := exists_narrowDeviceType_eq_ok hgroup
    exact ⟨variant, hvariant,
      fun _ => matchDeviceType?_eq_some_iff_restriction hany hdistinct hvariant,
      matchDeviceType?_eq_none_iff_restriction hany hdistinct hvariant⟩
  · intro hexact hused hresolve id found
    constructor
    · rintro ⟨variant, hmem, selectable, hmatch, hfound⟩
      obtain ⟨key, _, hvariant⟩ := mem_variants.1 hmem
      obtain ⟨base, hbase, rfl, _⟩ :=
        (matchDeviceType?_eq_some_iff_restriction hany hdistinct hvariant).1 hmatch
      exact ⟨base, hbase, (IdMap.get?_restrict_eq_some_iff.1 hfound).2⟩
    · rintro ⟨base, hbase, hfound⟩
      exact exists_variant_of_get? hany hdistinct hexact hused hresolve hbase hfound

end NarrowingConfig

/-- A strip that also reports its total power, which belongs to no socket. -/
def DeviceType.meteredStrip : DeviceType :=
  { DeviceType.strip with
    services := DeviceType.strip.services ++ [{
      id := "total"
      interaction := .event
      outputs := [{
        id := "reported"
        root := {
          id := "total", name := "total"
          functionId := some "power"
          aspectId := some "socket" } }] }] }

namespace NarrowingConfig

def lenient : NarrowingConfig where
  allowNotFound := true

theorem matchDeviceType?_variants_meteredStrip :
    (({} : MatchOptions).mustMatchAll = false ∧
        (DeviceType.meteredStrip.services.map (·.id)).Nodup) ∧
      (lenient.resolveGroup .meteredStrip "right" = .ok { key := "right", name := "right" } ∧
        ∃ variant, lenient.narrowDeviceType .meteredStrip "right" = .ok variant ∧
          ∀ selectable,
            MatchContext.powerContext.matchDeviceType? MatchContext.powerCriteria variant {} =
                some selectable ↔
              ∃ base, MatchContext.powerContext.matchDeviceType? MatchContext.powerCriteria
                  .meteredStrip {} = some base ∧
                lenient.restriction .meteredStrip "right" base = selectable ∧
                  selectable.services ≠ []) ∧
        (lenient.exactMatch = false ∧
          DeviceType.meteredStrip.usedGroupKeys = ["left & front", "right"] ∧
            ∀ id found,
              (∃ variant ∈ lenient.variants .meteredStrip, ∃ selectable,
                MatchContext.powerContext.matchDeviceType? MatchContext.powerCriteria variant {} =
                  some selectable ∧ selectable.pathOptions.get? id = some found) ↔
              ∃ base, MatchContext.powerContext.matchDeviceType? MatchContext.powerCriteria
                  .meteredStrip {} = some base ∧ base.pathOptions.get? id = some found) := by
  have hdistinct : (DeviceType.meteredStrip.services.map (·.id)).Nodup := by decide
  have hused : DeviceType.meteredStrip.usedGroupKeys = ["left & front", "right"] := by decide
  have hresolve : ∀ key ∈ DeviceType.meteredStrip.usedGroupKeys,
      ∃ group, lenient.resolveGroup .meteredStrip key = .ok group := by
    rw [hused]
    simp only [List.mem_cons, List.not_mem_nil, or_false]
    rintro _ (rfl | rfl)
    · exact ⟨_, rfl⟩
    · exact ⟨_, rfl⟩
  have hany : ({} : MatchOptions).mustMatchAll = false := rfl
  obtain ⟨hvariant, hunion⟩ := matchDeviceType?_variants lenient MatchContext.powerContext
    MatchContext.powerCriteria hany hdistinct
  obtain ⟨variant, hnarrow, hmatch, _⟩ := hvariant "right" _ rfl
  exact ⟨⟨rfl, hdistinct⟩, ⟨rfl, variant, hnarrow, hmatch⟩, rfl, hused,
    hunion rfl (by rw [hused]; exact List.cons_ne_nil _ _) hresolve⟩

end NarrowingConfig

end DeviceCatalog
