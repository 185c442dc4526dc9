import LayeredConfig.Proofs.Editor.Store
import Mathlib.Data.List.Induction

/-!
# Stores that are refused

A store hears the validators before it does anything. If one of them objects to a text that is to
be set, the store is refused, and everything stays as it was; otherwise the request is taken, and
what is pending afterwards is empty.
-/
namespace LayeredConfig

/-! ## Validators as they were registered -/

namespace Validators

/-- What comes of registering validators one after the other, each for a key. -/
def registered (rs : List (String × Validator)) : Validators :=
  rs.foldl (fun vs r => vs.add r.1 r.2) empty

theorem forKey_add (vs : Validators) (key k : String) (v : Validator) :
    (vs.add key v).forKey k = if k = key then vs.forKey k ++ [v] else vs.forKey k := by
  rw [add, forKey, StringMap.get?_insert]
  split
  · next hk => rw [hk]; rfl
  · rfl

theorem registered_concat (rs : List (String × Validator)) (key : String) (v : Validator) :
    registered (rs ++ [(key, v)]) = (registered rs).add key v := by
  rw [registered, List.foldl_append]
  rfl

theorem forKey_registered (rs : List (String × Validator)) (key : String) :
    (registered rs).forKey key = (rs.filter (·.1 == key)).map (·.2) := by
  induction rs using List.reverseRecOn with
  | nil => rfl
  | append_singleton rs r ih =>
    rw [registered_concat, forKey_add, ih, List.filter_append, List.map_append]
    split
    · next hkey => simp [hkey]
    · next hkey => simp [Ne.symm hkey]

theorem objection?_registered (rs : List (String × Validator)) (key text : String) :
    (registered rs).objection? key text
      = rs.findSome? fun r => if r.1 = key then r.2 text else none := by
  rw [objection?, forKey_registered, List.findSome?_map, ← List.head?_filterMap,
    ← List.head?_filterMap, List.filterMap_filter]
  simp only [Function.comp_def, beq_iff_eq]

/-- Of the validators of a key, the one that was registered first is heard. -/
theorem objection?_registered_eq_some {rs : List (String × Validator)} {key text message : String} :
    (registered rs).objection? key text = some message ↔
      ∃ front v back, rs = front ++ (key, v) :: back ∧ v text = some message ∧
        ∀ w, (key, w) ∈ front → w text = none := by
  rw [objection?_registered, List.findSome?_eq_some_iff]
  constructor
  · rintro ⟨front, ⟨k, v⟩, back, hrs, hmessage, hfront⟩
    split at hmessage
    · next hk =>
      cases hk
      exact ⟨front, v, back, hrs, hmessage, fun w hw => (if_pos rfl).symm.trans (hfront _ hw)⟩
    · cases hmessage
  · rintro ⟨front, v, back, hrs, hmessage, hfront⟩
    refine ⟨front, (key, v), back, hrs, (if_pos rfl).trans hmessage, fun ⟨k, w⟩ hw => ?_⟩
    split
    · next hk =>
      cases hk
      exact hfront w hw
    · rfl

theorem objection?_registered_eq_none {rs : List (String × Validator)} {key text : String} :
    (registered rs).objection? key text = none ↔ ∀ v, (key, v) ∈ rs → v text = none := by
  rw [objection?_registered, List.findSome?_eq_none_iff]
  constructor
  · exact fun h v hv => (if_pos rfl).symm.trans (h _ hv)
  · rintro h ⟨k, v⟩ hv
    split
    · next hk =>
      cases hk
      exact h v hv
    · rfl

end Validators

/-! ## Refusals -/

/-- The refusal that a request meets: it is of the least key with a text that one of its validators
objects to, and says what the first of them that was registered has to object. -/
structure ChangeRequest.Refused (r : ChangeRequest) (rs : List (String × Validator))
    (key message : String) : Prop where
  heard : ∃ text front v back, r.puts.get? key = some text ∧ rs = front ++ (key, v) :: back ∧
    v text = some message ∧ ∀ w, (key, w) ∈ front → w text = none
  least : ∀ k < key, ∀ text, r.puts.get? k = some text → ∀ w, (k, w) ∈ rs → w text = none

namespace Editor

variable {L : Type} {e : Editor L} {rs : List (String × Validator)}

/-- Adding validators to an editor one after the other registers them. -/
theorem validators_foldl_addValidator (h : e.validators = .registered rs)
    (added : List (String × Validator)) :
    (added.foldl (fun e r => e.addValidator r.1 r.2) e).validators
      = .registered (rs ++ added) := by
  induction added generalizing e rs with
  | nil => rw [List.append_nil]; exact h
  | cons r added ih =>
    have hr : (e.addValidator r.1 r.2).validators = .registered (rs ++ [r]) := by
      rw [addValidator, h, Validators.registered_concat]
    rw [List.foldl_cons, ih hr, List.append_assoc]
    rfl

theorem objection?_eq_some_iff (h : e.validators = .registered rs) {error : Error} :
    e.objection? = some error ↔
      ∃ key message, error = .validation key message ∧ e.request.Refused rs key message := by
  rw [objection?, StringMap.findSome?_entries_eq_some, h]
  simp only [Option.map_eq_some_iff, Option.map_eq_none_iff,
    Validators.objection?_registered_eq_some, Validators.objection?_registered_eq_none]
  constructor
  · rintro ⟨key, text, htext, ⟨message, ⟨front, v, back, hheard⟩, rfl⟩, hleast⟩
    exact ⟨key, message, rfl, ⟨text, front, v, back, htext, hheard⟩, hleast⟩
  · rintro ⟨key, message, rfl, ⟨text, front, v, back, htext, hheard⟩, hleast⟩
    exact ⟨key, text, htext, ⟨message, ⟨front, v, back, hheard⟩, rfl⟩, hleast⟩

theorem objection?_eq_none_iff (h : e.validators = .registered rs) :
    e.objection? = none ↔
      ∀ key text, e.request.puts.get? key = some text → ∀ v, (key, v) ∈ rs → v text = none := by
  rw [objection?, List.findSome?_eq_none_iff, h]
  simp only [Prod.forall, Option.map_eq_none_iff, StringMap.mem_entries_iff,
    Validators.objection?_registered_eq_none]

variable {c : Configuration} {σ : Sources} {backups : Option BackupStore} {stamp : Stamp}
  {error : Error} {outcome : Outcome}

/-- An objection is all that a store then comes to. -/
theorem store_of_objection (h : e.objection? = some error) :
    e.store c σ backups stamp
      = pure { editor := e, sources := σ, backups, deliveries := [], result := .error error } := by
  rw [store, h]

theorem result_eq_error_iff :
    (e.store c σ backups stamp).value.result = .error error ↔ e.objection? = some error := by
  cases hobjection : e.objection? with
  | none =>
    obtain ⟨outcome, hok⟩ : ∃ outcome, (e.store c σ backups stamp).value.result = .ok outcome :=
      exists_result_ok hobjection backups
    exact iff_of_false (fun herror => nomatch hok.symm.trans herror) nofun
  | some objection =>
    rw [store_of_objection hobjection]
    exact ⟨fun h => congrArg some (Except.error.inj h), fun h => congrArg _ (Option.some.inj h)⟩

theorem result_eq_validation_iff (h : e.validators = .registered rs) {key message : String} :
    (e.store c σ backups stamp).value.result = .error (.validation key message) ↔
      e.request.Refused rs key message := by
  rw [result_eq_error_iff, objection?_eq_some_iff h]
  constructor
  · rintro ⟨_, _, heq, hrefused⟩
    cases heq
    exact hrefused
  · exact fun hrefused => ⟨key, message, rfl, hrefused⟩

theorem exists_validation_iff (h : e.validators = .registered rs) :
    (∃ key message, (e.store c σ backups stamp).value.result = .error (.validation key message)) ↔
      ∃ key text v, e.request.puts.get? key = some text ∧ (key, v) ∈ rs ∧ v text ≠ none := by
  constructor
  · rintro ⟨key, message, herror⟩
    obtain ⟨text, front, v, back, htext, rfl, hmessage, -⟩ :=
      ((result_eq_validation_iff h).mp herror).heard
    exact ⟨key, text, v, htext, by simp, by simp [hmessage]⟩
  · rintro ⟨key, text, v, htext, hv, hobjects⟩
    cases hobjection : e.objection? with
    | none => exact absurd ((objection?_eq_none_iff h).mp hobjection key text htext v hv) hobjects
    | some error =>
      obtain ⟨k, message, rfl, -⟩ := (objection?_eq_some_iff h).mp hobjection
      exact ⟨k, message, result_eq_error_iff.mpr hobjection⟩

theorem editor_store (hok : (e.store c σ backups stamp).value.result = .ok outcome) :
    (e.store c σ backups stamp).value.editor = { e with request := .new stamp } := by
  rw [store, objection?_eq_none hok]
  dsimp only
  split
  · rfl
  · cases backups <;> rfl

/-- A store is refused if and only if some text that is to be set is one that a validator of its key
objects to; what the request removes makes no difference to that. The refusal names the least such
key, with the message of the first validator that was registered for it and objects. Nothing has
been asked, logged or told by then: the pending request, the sources and the backups are as they
were. Where a store is not refused, what is pending afterwards is empty. -/
theorem store_refused_iff (h : e.validators = .registered rs) (c : Configuration) (σ : Sources)
    (backups : Option BackupStore) (stamp : Stamp) :
    let stored := e.store c σ backups stamp
    ((∃ key message, stored.value.result = .error (.validation key message)) ↔
      ∃ key text v, e.request.puts.get? key = some text ∧ (key, v) ∈ rs ∧ v text ≠ none) ∧
    (∀ key message, stored.value.result = .error (.validation key message) ↔
      e.request.Refused rs key message) ∧
    (∀ r : ChangeRequest, r.puts = e.request.puts →
      ∀ error, ({ e with request := r }.store c σ backups stamp).value.result = .error error ↔
        stored.value.result = .error error) ∧
    (∀ error, stored.value.result = .error error →
      (∃ key message, error = .validation key message) ∧
      stored = pure
        { editor := e, sources := σ, backups, deliveries := [], result := .error error }) ∧
    ∀ outcome, stored.value.result = .ok outcome →
      stored.value.editor = { e with request := .new stamp } ∧
      stored.value.editor.request.isEmpty := by
  intro stored
  refine ⟨exists_validation_iff h, fun key message => result_eq_validation_iff h, ?_, ?_, ?_⟩
  · intro r hputs error
    rw [result_eq_error_iff, result_eq_error_iff, objection?, objection?, hputs]
  · intro error herror
    have hobjection := result_eq_error_iff.mp herror
    obtain ⟨key, message, rfl, -⟩ := (objection?_eq_some_iff h).mp hobjection
    exact ⟨⟨key, message, rfl⟩, store_of_objection hobjection⟩
  · intro outcome hok
    have heditor := editor_store hok
    exact ⟨heditor, by rw [heditor]; rfl⟩

/-- Of three keys that are set, the validators of two object; the request removes a third one of
which every text would be refused. -/
theorem store_refused_at_least_key :
    let time : Timestamp :=
      { year := 2024, month := 2, day := 29, hour := 0, minute := 0, second := 0,
        nanosecond := 0, offset := 0 }
    let short : Validator := fun text => if text.length < 3 then some "too short" else none
    let rs : List (String × Validator) :=
      [("c", short), ("b", fun _ => none), ("b", short), ("b", fun _ => some "never"),
       ("a", fun _ => some "never")]
    let blank : Editor Nat :=
      { policy := .all
        request := (((ChangeRequest.new ⟨"r", time⟩).putAll
          [("d", "x"), ("c", "y"), ("b", "z")]).remove "a") }
    let e := rs.foldl (fun e r => e.addValidator r.1 r.2) blank
    let σ : Sources := ⟨#[.memory { name := "app" }]⟩
    let c : Configuration := { registry := (Registry.empty.withSources (σ.mounts [0])).value }
    let stored := e.store c σ (some {}) ⟨"s", time⟩
    stored = pure
      { editor := e, sources := σ, backups := some {}, deliveries := []
        result := .error (.validation "b" "too short") } ∧
    e.request.Refused rs "b" "too short" := by
  intro time short rs blank e σ c stored
  have hregistered : e.validators = .registered rs :=
    validators_foldl_addValidator (show blank.validators = .registered [] from rfl) rs
  have hresult : stored.value.result = .error (.validation "b" "too short") := by decide +kernel
  obtain ⟨-, hrefused, -, hunchanged, -⟩ :=
    store_refused_iff hregistered c σ (some {}) ⟨"s", time⟩
  exact ⟨(hunchanged _ hresult).2, (hrefused "b" "too short").mp hresult⟩

end Editor

end LayeredConfig
