import DeviceCatalog.Proofs.Expansion

/-!
# Pages

A query takes a page of the ordered candidates, and each candidate is expanded as if it stood alone.
So two pages that follow each other give together what the page of both lengths gives, although
each of them is matched with a context of its own.
-/

namespace DeviceCatalog

/-! ### Pages of a list -/

namespace Store

variable {Item : Type} {offset first second : UInt64}

theorem toNat_add_of_lt (hfits : first.toNat + second.toNat < UInt64.size) :
    (first + second).toNat = first.toNat + second.toNat := by
  rw [UInt64.toNat_add]
  exact Nat.mod_eq_of_lt hfits

theorem page_append_page (hnext : offset.toNat + first.toNat < UInt64.size)
    (hboth : first.toNat + second.toNat < UInt64.size) (items : List Item) :
    page offset (some first) items ++ page (offset + first) (some second) items =
      page offset (some (first + second)) items := by
  simp only [page]
  rw [toNat_add_of_lt hnext, toNat_add_of_lt hboth, List.take_add, List.drop_drop]

theorem page_append_rest (hnext : offset.toNat + first.toNat < UInt64.size)
    (items : List Item) :
    page offset (some first) items ++ page (offset + first) none items =
      page offset none items := by
  simp only [page]
  rw [toNat_add_of_lt hnext, ← List.drop_drop, List.take_append_drop]

end Store

/-! ### Pages of an answer -/

namespace SelectableQuery

/-- The same query for the candidates after an offset, up to a limit. -/
def paged (query : SelectableQuery) (offset : UInt64) (limit : Option UInt64) : SelectableQuery :=
  { query with offset, limit }

end SelectableQuery

namespace NarrowingConfig

variable {config : NarrowingConfig} {store : Store} {query : SelectableQuery}

theorem expandCandidates_append (context : MatchContext) (query : SelectableQuery)
    (deviceTypes others : List DeviceType) :
    config.expandCandidates context query (deviceTypes ++ others) =
      config.expandCandidates context query deviceTypes ++
        config.expandCandidates context query others :=
  List.flatMap_append

/-- All candidates of a query, in its order. -/
def candidates (store : Store) (query : SelectableQuery) : List DeviceType :=
  store.listDeviceTypes (query.paged 0 none).toDeviceTypeQuery

theorem listDeviceTypes_paged (store : Store) (query : SelectableQuery) (offset : UInt64)
    (limit : Option UInt64) :
    store.listDeviceTypes (query.paged offset limit).toDeviceTypeQuery =
      Store.page offset limit (candidates store query) := rfl

/-- What stands on a page is what the candidates on it give, each of them alone. -/
theorem resolveSelectables_paged (hfiled : store.Filed)
    (hvalid : validateCriteria query.criteria = .ok ()) (offset : UInt64)
    (limit : Option UInt64) :
    config.resolveSelectables store.source (query.paged offset limit) =
      .ok (config.expandCandidates store.wholeContext query
        (Store.page offset limit (candidates store query))) := by
  have hpage : validateCriteria (query.paged offset limit).criteria = .ok () := hvalid
  rw [resolveSelectables_source hfiled hpage, listDeviceTypes_paged]
  rfl

end NarrowingConfig

/-- **Pages concatenate.** What a query answers up to a limit, followed by what it answers from
there on, is what it answers at once, with a limit to the second part and without one. -/
theorem resolveSelectables_pages_concatenate {store : Store} (hstore : store.Reachable)
    (narrowing : NarrowingConfig) {query : SelectableQuery}
    (hvalid : validateCriteria query.criteria = .ok ()) {offset first : UInt64}
    (hnext : offset.toNat + first.toNat < UInt64.size) :
    ∃ page rest,
      (store.registry narrowing).resolveSelectables (query.paged offset (some first)) =
          .ok page ∧
        (store.registry narrowing).resolveSelectables (query.paged (offset + first) none) =
            .ok rest ∧
          (store.registry narrowing).resolveSelectables (query.paged offset none) =
              .ok (page ++ rest) ∧
            ∀ second : UInt64, first.toNat + second.toNat < UInt64.size → ∃ next,
              (store.registry narrowing).resolveSelectables
                  (query.paged (offset + first) (some second)) = .ok next ∧
                (store.registry narrowing).resolveSelectables
                    (query.paged offset (some (first + second))) = .ok (page ++ next) := by
  have hanswer : ∀ offset limit,
      (store.registry narrowing).resolveSelectables (query.paged offset limit) =
        .ok (narrowing.expandCandidates store.wholeContext query
          (Store.page offset limit (NarrowingConfig.candidates store query))) :=
    NarrowingConfig.resolveSelectables_paged hstore.filed hvalid
  refine ⟨_, _, hanswer _ _, hanswer _ _, ?_, fun second hboth => ⟨_, hanswer _ _, ?_⟩⟩
  · rw [← NarrowingConfig.expandCandidates_append, Store.page_append_rest hnext]
    exact hanswer _ _
  · rw [← NarrowingConfig.expandCandidates_append, Store.page_append_page hnext hboth]
    exact hanswer _ _

/-- A store with a second strip, which is listed before the first. -/
def Store.twoStrips : Store :=
  Store.strip.registerDeviceType { DeviceType.strip with id := "bar", name := "Bar" }

theorem resolveSelectables_pages_concatenate_twoStrips :
    Store.twoStrips.Reachable ∧ validateCriteria outletPowerQuery.criteria = .ok () ∧
      (0 : UInt64).toNat + (1 : UInt64).toNat < UInt64.size ∧
        (1 : UInt64).toNat + (1 : UInt64).toNat < UInt64.size ∧ ∃ page rest next,
          (Store.twoStrips.registry {}).resolveSelectables (outletPowerQuery.paged 0 (some 1)) =
              .ok page ∧
            (Store.twoStrips.registry {}).resolveSelectables (outletPowerQuery.paged 1 none) =
                .ok rest ∧
              (Store.twoStrips.registry {}).resolveSelectables (outletPowerQuery.paged 0 none) =
                  .ok (page ++ rest) ∧
                (Store.twoStrips.registry {}).resolveSelectables
                    (outletPowerQuery.paged 1 (some 1)) = .ok next ∧
                  (Store.twoStrips.registry {}).resolveSelectables
                      (outletPowerQuery.paged 0 (some 2)) = .ok (page ++ next) := by
  have hreachable : Store.twoStrips.Reachable := Store.reachable_strip.apply (.deviceType _)
  have hfits : (0 : UInt64).toNat + (1 : UInt64).toNat < UInt64.size := by decide
  have hboth : (1 : UInt64).toNat + (1 : UInt64).toNat < UInt64.size := by decide
  obtain ⟨page, rest, hpage, hrest, hall, hlimited⟩ :=
    @resolveSelectables_pages_concatenate _ hreachable {} outletPowerQuery rfl _ _ hfits
  obtain ⟨next, hnext, htogether⟩ := hlimited 1 hboth
  exact ⟨hreachable, rfl, hfits, hboth, page, rest, next, hpage, hrest, hall, hnext, htogether⟩

end DeviceCatalog
