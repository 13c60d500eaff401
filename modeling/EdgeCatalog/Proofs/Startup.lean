import Mathlib
import EdgeCatalog.Startup
import EdgeCatalog.Proofs.Config.Rules
import EdgeCatalog.Proofs.Service.Lifetime
import EdgeCatalog.Proofs.Store.Write

/-! A configuration that loads is the one that was asked for, and it opens a catalog
(`loadConfig_sound`). An option can turn a configuration that was read as one of devices into one of
registrations, so it is the check after the options are merged that vouches for the id under which
the catalog registers itself. -/
namespace EdgeCatalog

open CommandLine (Options)

/-! ## Valid configurations -/

/-- What the check of a configuration is for. -/
structure Config.Valid (c : Config) : Prop where
  name : Text.allBlank c.name = false
  endpoint : Config.hasPort c.endpoint = true
  maxPerPage : c.maxPerPage ≠ 0
  sweepIntervalSecs : c.sweepIntervalSecs ≠ 0
  registration : c.kind = .service → c.selfRegister = true → Id.IsRecord c.registrationId

theorem Config.check_eq_ok_iff {c : Config} : c.check = .ok () ↔ c.Valid := by
  rw [check_eq_audit, audit_eq_ok_iff]
  constructor
  · intro h
    have hkept (rule : Rule) : c.Keeps rule := h rule (mem_rules rule)
    refine ⟨Text.allBlank_eq_false_iff.mpr (hkept .name), hasPort_iff.mpr (hkept .endpoint),
      UInt64.pos_iff_ne_zero.mp (hkept .maxPerPage),
      UInt64.pos_iff_ne_zero.mp (hkept .sweepInterval), fun hkind hself => ?_⟩
    exact Id.isRecord_slash_iff.mpr (hkept .registration hkind hself)
  · intro h rule _
    cases rule with
    | name => exact Text.allBlank_eq_false_iff.mp h.name
    | endpoint => exact hasPort_iff.mp h.endpoint
    | maxPerPage => exact UInt64.pos_iff_ne_zero.mpr h.maxPerPage
    | sweepInterval => exact UInt64.pos_iff_ne_zero.mpr h.sweepIntervalSecs
    | registration =>
      intro hkind hself
      exact Id.isRecord_slash_iff.mp (h.registration hkind hself)

/-! ## Loading -/

theorem ok_of_bind {ε α β : Type} {first : Except ε α} {next : α → Except ε β} {b : β}
    (h : first >>= next = .ok b) : ∃ a, first = .ok a ∧ next a = .ok b := by
  cases first with
  | error e => cases h
  | ok a => exact ⟨a, rfl, h⟩

theorem ok_of_mapError {ε δ α : Type} {f : ε → δ} {result : Except ε α} {a : α}
    (h : result.mapError f = .ok a) : result = .ok a := by
  cases result with
  | error e => cases h
  | ok value => rw [Except.ok.inj h]

theorem Config.parse_of_load {path : String} {file : Config.File} {base : Config}
    (h : Config.load path file = .ok base) :
    ∃ text, file.text = .ok text ∧ Config.parse path text = .ok base := by
  obtain ⟨text, htext, h⟩ := ok_of_bind h
  obtain ⟨c, hparse, h⟩ := ok_of_bind h
  obtain ⟨-, -, h⟩ := ok_of_bind h
  obtain rfl := Except.ok.inj h
  exact ⟨text, htext, hparse⟩

namespace Startup

/-- The configuration that the options start from: the one in the file that they name, or the
default if they name none. -/
inductive StartsFrom (o : Options) (file : String → Config.File) : Config → Prop
  | default : o.config = none → StartsFrom o file {}
  | file {path text : String} {base : Config} : o.config = some path →
      (file path).text = .ok text → Config.parse path text = .ok base → StartsFrom o file base

/-- The options replace three of the values, each where it is given, and nothing else. -/
structure Overrides (o : Options) (base c : Config) : Prop where
  kind : c.kind = o.kind.getD base.kind
  maxPerPage : c.maxPerPage = o.maxPerPage.getD base.maxPerPage
  sweepIntervalSecs : c.sweepIntervalSecs = o.sweepIntervalSecs.getD base.sweepIntervalSecs
  name : c.name = base.name
  description : c.description = base.description
  host : c.host = base.host
  storage : c.storage = base.storage
  endpoint : c.endpoint = base.endpoint
  selfRegister : c.selfRegister = base.selfRegister

theorem overrides_merge (o : Options) (base : Config) : Overrides o base (merge base o) where
  kind := rfl
  maxPerPage := rfl
  sweepIntervalSecs := rfl
  name := rfl
  description := rfl
  host := rfl
  storage := rfl
  endpoint := rfl
  selfRegister := rfl

/-- What the options name loads as it is read, and is then checked once more with the options in
place. -/
theorem loadConfig_eq_ok {o : Options} {file : String → Config.File} {c : Config}
    (h : loadConfig o file = .ok c) :
    ∃ base, StartsFrom o file base ∧ c = merge base o ∧ c.check = .ok () := by
  obtain ⟨base, hbase, h⟩ : ∃ base, StartsFrom o file base ∧
      ((merge base o).check.mapError (Abort.ofError "invalid configuration") >>=
        fun _ => .ok (merge base o)) = .ok c := by
    rw [loadConfig] at h
    split at h
    · rename_i hnone
      exact ⟨{}, .default hnone, h⟩
    · rename_i path hpath
      obtain ⟨base, hload, h⟩ := ok_of_bind h
      obtain ⟨text, htext, hparse⟩ := Config.parse_of_load (ok_of_mapError hload)
      exact ⟨base, .file hpath htext hparse, h⟩
  obtain ⟨⟨⟩, hcheck, h⟩ := ok_of_bind h
  obtain rfl := Except.ok.inj h
  exact ⟨base, hbase, rfl, ok_of_mapError hcheck⟩

end Startup

/-! ## Self-registration -/

/-- Calls that do not write under an id leave alone what is stored there. -/
theorem ServiceStore.untouched_of_not_writes {calls : List (Operation Service)} {id : String}
    (h : ∀ call ∈ calls, ¬call.Writes id) (s : ServiceStore) :
    CallStore.Untouched id s calls := by
  induction calls generalizing s with
  | nil => exact fun e he => absurd he List.not_mem_nil
  | cons c rest ih =>
    intro e he
    rcases List.mem_cons.mp he with rfl | he
    · exact fun htouches => h c List.mem_cons_self (Operation.writes_of_touches htouches)
    · exact ih (fun call hcall => h call (List.mem_cons_of_mem c hcall)) (c.apply s) e he

namespace Config

variable {c : Config} {s : ServiceStore}

/-- The registration of a catalog as its own store keeps it. -/
def registered (c : Config) (now : Instant) : Service :=
  { c.selfRegistration with created := now, updated := now }

/-- A catalog registers itself in a store at a reading of the clock: the store takes the
registration, under the id made of the host and the name and with no expiry, and keeps it. -/
structure RegistersIn (c : Config) (s : ServiceStore) (now : Instant) (r : Service) : Prop where
  result : (s.add now c.selfRegistration).result = .ok r
  id : r.id = c.host ++ "/" ++ c.name
  expires : r.expires = none
  /-- No sweep removes it, whatever the clock reads then. -/
  swept : ∀ sweeps : List Instant,
    ((sweeps.foldl (fun s reading => (s.cleanExpired reading).store)
      (s.add now c.selfRegistration).store).get r.id).result = .ok r
  /-- Nor does any other call that is not a write under its id. -/
  kept : ∀ calls : List (Operation Service), (∀ call ∈ calls, ¬call.Writes r.id) →
    (((s.add now c.selfRegistration).store.run calls).get r.id).result = .ok r

theorem result_add_selfRegistration (hid : Id.IsRecord c.registrationId)
    (hfree : s.tables.data.contains c.registrationId = false) (now : Instant) :
    (s.add now c.selfRegistration).result = .ok (c.registered now) := by
  have hcheck : c.selfRegistration.check = .ok () := Id.checkRecord_eq_ok_iff.mpr hid
  have hexpires : Expiry.expiryFor now c.selfRegistration.ttl = .ok none := rfl
  have hnew : s.tables.data.contains c.selfRegistration.id ≠ true := Bool.eq_false_iff.mp hfree
  rw [ServiceStore.add, hcheck, hexpires]
  dsimp only
  rw [if_neg hnew]
  rfl

/-- The registration lives for ever, so whatever leaves its id alone leaves it where it is. -/
theorem registersIn (hid : Id.IsRecord c.registrationId) (hs : s.Reachable)
    (hfree : s.tables.data.contains c.registrationId = false) (now : Instant) :
    c.RegistersIn s now (c.registered now) := by
  have hresult := result_add_selfRegistration hid hfree now
  have hok : (Operation.add now c.selfRegistration).answer s = .ok (.record (c.registered now)) :=
    congrArg (·.map Reply.record) hresult
  have hkept (calls : List (Operation Service))
      (hcalls : ∀ call ∈ calls, ¬call.Writes c.registrationId) :
      (((s.add now c.selfRegistration).store.run calls).get c.registrationId).result =
        .ok (c.registered now) :=
    (ServiceStore.lifetime_of_stores hs (.add now c.selfRegistration) hok
      (ServiceStore.untouched_of_not_writes hcalls _)).forever (show (-1 : Int64) < 0 by decide)
  refine ⟨hresult, rfl, rfl, fun sweeps => ?_, hkept⟩
  have hcalls : ∀ call ∈ sweeps.map (.cleanExpired : Instant → Operation Service),
      ¬call.Writes c.registrationId := by
    intro call hcall hwrites
    obtain ⟨reading, -, rfl⟩ := List.mem_map.mp hcall
    cases hwrites
  have hget := hkept _ hcalls
  rwa [ServiceStore.run, List.foldl_map] at hget

end Config

/-! ## What loads -/

namespace Startup

/-- A valid configuration of a catalog that registers itself opens with its registration. -/
theorem openCatalog_eq {c : Config} (hvalid : c.Valid) (hkind : c.kind = .service)
    (hself : c.selfRegister = true) (now : Instant) :
    (openCatalog c now).1 = .ok (.services
      (({ maxPerPage := c.maxPerPage } : ServiceStore).add now c.selfRegistration).store) := by
  have hresult := Config.result_add_selfRegistration
    (s := { maxPerPage := c.maxPerPage }) (hvalid.registration hkind hself) rfl now
  rw [openCatalog, hkind]
  dsimp only
  rw [if_pos hself, hresult]

/-- A configuration that loads is valid; it holds the options where they are given and what they
start from everywhere else; and where the catalog is to register itself, an empty store takes the
registration whatever the clock reads, and the catalog opens with it. -/
theorem loadConfig_sound (o : Options) (file : String → Config.File) (c : Config)
    (h : loadConfig o file = .ok c) :
    c.check = .ok () ∧ (∃ base, StartsFrom o file base ∧ Overrides o base c) ∧
      (c.kind = .service → c.selfRegister = true → ∀ now,
        (∀ s : ServiceStore, s.Reachable → s.size = 0 →
          c.RegistersIn s now (c.registered now)) ∧
        (openCatalog c now).1 = .ok (.services
          (({ maxPerPage := c.maxPerPage } : ServiceStore).add now c.selfRegistration).store)) := by
  obtain ⟨base, hbase, rfl, hcheck⟩ := loadConfig_eq_ok h
  refine ⟨hcheck, ⟨base, hbase, overrides_merge o base⟩, fun hkind hself now => ⟨?_, ?_⟩⟩
  · intro s hs hempty
    have hid := (Config.check_eq_ok_iff.mp hcheck).registration hkind hself
    have hfree : s.tables.data.contains (merge base o).registrationId = false := by
      by_contra hin
      have hsize := Table.size_erase_of_contains (by simpa using hin)
      have hzero : s.tables.data.size = 0 := hempty
      omega
    exact Config.registersIn hid hs hfree now
  · exact openCatalog_eq (Config.check_eq_ok_iff.mp hcheck) hkind hself now

/-- A file that describes a catalog of devices, and an option that makes it one of registrations. -/
theorem loadConfig_sound_override :
    let o : Options := { config := some "x.json", kind := some .service }
    let file (_ : String) : Config.File := .content "\x7b\"host\":\"h\"\x7d".toUTF8
    let c : Config := { host := "h", kind := .service }
    loadConfig o file = .ok c ∧ c.check = .ok () ∧
      ∀ now, c.RegistersIn {} now (c.registered now) := by
  intro o file c
  have hload : loadConfig o file = .ok c := by decide +kernel
  obtain ⟨hcheck, -, hregister⟩ := loadConfig_sound o file c hload
  exact ⟨hload, hcheck, fun now => (hregister rfl rfl now).1 {} ⟨100, [], rfl⟩ rfl⟩

/-- The same option with a file whose name does not do for a registration. -/
example :
    let o : Options := { config := some "x.json", kind := some .service }
    let file (_ : String) : Config.File := .content "\x7b\"name\":\"a/b\"\x7d".toUTF8
    (loadConfig { o with kind := none } file).isOk = true ∧ (loadConfig o file).isOk = false := by
  decide +kernel

end Startup

end EdgeCatalog
