import Mathlib
import EdgeCatalog.Proofs.Device.Lifetime
import EdgeCatalog.Proofs.Service.Lifetime

/-! How long records live. What is stored for a number of seconds is kept, whatever is called in the
meantime, until the first sweep at or after the instant at which it is due; the readings of the clock
and the sweeps may come in any order. -/
namespace EdgeCatalog

/-- A record that an addition or an update stores lives as long as its time to live says, as long as
no call adds, updates or deletes a record under its id, and nothing is left of it afterwards. -/
theorem lifetimes :
    (∀ (s : DeviceStore) (c : Operation Device) (id : String) (now : Instant) (entry r : Device)
        (calls : List DeviceCall),
      s.Reachable → c.Stores id now entry → c.answer s = .ok (.record r) →
      CallStore.Untouched id (c.apply s) calls →
      CallStore.Lifetime DeviceStore.Gone (c.apply s) calls id now entry.ttl r) ∧
    (∀ (s : ServiceStore) (c : Operation Service) (id : String) (now : Instant)
        (entry r : Service) (calls : List (Operation Service)),
      s.Reachable → c.Stores id now entry → c.answer s = .ok (.record r) →
      CallStore.Untouched id (c.apply s) calls →
      CallStore.Lifetime ServiceStore.Gone (c.apply s) calls id now entry.ttl r) :=
  ⟨fun _ _ _ _ _ _ _ hs hstores hok hun => DeviceStore.lifetime_of_stores hs hstores hok hun,
    fun _ _ _ _ _ _ _ hs hstores hok hun => ServiceStore.lifetime_of_stores hs hstores hok hun⟩

/-- A device that is to live for no time at all goes with a sweep at the very instant at which it is
stored, and a registration that is to live for ever stays. -/
theorem lifetimes_none_ever :
    let s := DeviceStore.run {} [
      .record (.add .epoch { id := "a/b", resources := [{ id := "a/b/x" }] })]
    let t := ServiceStore.run {} [.add .epoch { id := "a/b", ttl := -1 }]
    (s.call (.record (.cleanExpired .epoch))).Gone {
      id := "a/b", expires := some .epoch, resources := [{ id := "a/b/x", device := "a/b" }] } ∧
    (((Operation.cleanExpired .epoch).apply t).get "a/b").result =
      .ok { id := "a/b", ttl := -1 } := by
  intro s t
  constructor
  · have hlife := lifetimes.1 {} (.add .epoch { id := "a/b", resources := [{ id := "a/b/x" }] })
      "a/b" .epoch _ _ [.record (.cleanExpired .epoch)] ⟨100, [], rfl⟩ (.add _ _) (by rfl)
      (fun e he => by
        obtain rfl := List.mem_singleton.mp he
        exact not_false)
    obtain ⟨due, hdue, -, hgone⟩ := hlife.untilDue (by decide)
    refine hgone [.record (.cleanExpired .epoch)] [] rfl ⟨.epoch, List.mem_singleton_self _, ?_⟩
    have hepoch : Instant.epoch.addSeconds? 0 = some .epoch := by decide
    obtain rfl := Option.some.inj (hepoch.symm.trans hdue)
    decide
  · have hlife := lifetimes.2 {} (.add .epoch { id := "a/b", ttl := -1 }) "a/b" .epoch _ _
      [.cleanExpired .epoch] ⟨100, [], rfl⟩ (.add _ _) (by rfl)
      (fun e he => by
        obtain rfl := List.mem_singleton.mp he
        exact not_false)
    exact hlife.forever (by decide)

end EdgeCatalog
