import LayeredConfig.Configuration
import LayeredConfig.Proofs.DynamicValue.Frozen

/-!
# Values that follow the configuration

Under the policies that put readings into force, a value goes to what its first readable key
gives, at a commit or at a read. Readings are told apart by the equality of their values only, so
a reading that equals the one in force does not take its place.
-/
namespace LayeredConfig

variable {α L : Type}

/-! ## What a key gives -/

namespace Configuration

variable (c : Configuration) (σ : Sources) (convert : String → String → Except Error α)

/-- A typed read in whatever type texts are converted to. -/
def readAs : Fetch α := fun key => do
  match ← (c.view σ).getText key with
  | .error e => return .error e
  | .ok none => return .ok none
  | .ok (some raw) => return (convert key raw).map some

theorem getAs_eq_readAs (k : Kind) : c.getAs σ k = c.readAs σ (c.converters.convert k) := rfl

/-- The key has a property, which can be evaluated, with a text that can be converted. -/
def Gives (key : String) (value : α) : Prop :=
  ∃ p raw, ((c.view σ).get key).value = .ok (some p) ∧ p.value = some raw ∧
    convert key raw = .ok value

variable {c σ convert}

theorem value_readAs_eq_some_iff {key : String} {value : α} :
    (c.readAs σ convert key).value = .ok (some value) ↔ c.Gives σ convert key value := by
  unfold readAs Gives View.getText
  simp only [Journaled.value_bind, Journaled.value_pure]
  cases ((c.view σ).get key).value with
  | error e => simp [Except.map]
  | ok found =>
    cases found with
    | none => simp [Except.map]
    | some p =>
      cases hraw : p.value with
      | none => simp [Except.map, hraw]
      | some raw =>
        cases hconvert : convert key raw <;> simp [Except.map, hraw, hconvert]

end Configuration

/-! ## What a row of keys gives -/

/-- The reading of one key, if it can be read. -/
def readKey? (fetch : Fetch α) (key : String) : Slot α :=
  (fetch key).value.toOption.join.map (⟨key, ·⟩)

theorem readKey?_eq_some_iff {fetch : Fetch α} {key : String} {r : Resolved α} :
    readKey? fetch key = some r ↔ r.key = key ∧ (fetch key).value = .ok (some r.value) := by
  unfold readKey?
  rcases (fetch key).value with e | _ | value
  · simp [Except.toOption]
  · simp [Except.toOption]
  · obtain ⟨key', value'⟩ := r
    simp [Except.toOption, eq_comm]

namespace DynamicValue

theorem value_resolve (owner : String) (fetch : Fetch α) (keys : List String) :
    (resolve owner fetch keys).value = keys.findSome? (readKey? fetch) := by
  induction keys with
  | nil => rfl
  | cons key keys ih =>
    unfold resolve
    rw [Journaled.value_bind, List.findSome?_cons, readKey?]
    rcases (fetch key).value with e | _ | value
    · exact ih
    · exact ih
    · rfl

/-- The first key that can be read decides. -/
theorem value_resolve_eq_some_iff {owner : String} {fetch : Fetch α} {keys : List String}
    {r : Resolved α} :
    (resolve owner fetch keys).value = some r ↔
      ∃ passed rest, keys = passed ++ r.key :: rest ∧
        (fetch r.key).value = .ok (some r.value) ∧
        ∀ key ∈ passed, ∀ value, (fetch key).value ≠ .ok (some value) := by
  have hmiss : ∀ key, readKey? fetch key = none ↔
      ∀ value, (fetch key).value ≠ .ok (some value) := by
    intro key
    rw [Option.eq_none_iff_forall_ne_some]
    exact ⟨fun h value hvalue => h ⟨key, value⟩ (readKey?_eq_some_iff.mpr ⟨rfl, hvalue⟩),
      fun h r hr => h r.value (readKey?_eq_some_iff.mp hr).2⟩
  rw [value_resolve, List.findSome?_eq_some_iff]
  constructor
  · rintro ⟨passed, key, rest, hkeys, hr, hpassed⟩
    obtain ⟨rfl, hvalue⟩ := readKey?_eq_some_iff.mp hr
    exact ⟨passed, rest, hkeys, hvalue, fun key hkey => (hmiss key).mp (hpassed key hkey)⟩
  · rintro ⟨passed, rest, hkeys, hvalue, hpassed⟩
    exact ⟨passed, r.key, rest, hkeys, readKey?_eq_some_iff.mpr ⟨rfl, hvalue⟩,
      fun key hkey => (hmiss key).mpr (hpassed key hkey)⟩

end DynamicValue

/-! ## What comes into force -/

variable [BEq α]

/-- What is in force once a fresh reading has been taken up: one that equals the reading in force
leaves it there. -/
def Slot.adopt (committed fresh : Slot α) : Slot α :=
  if fresh.same committed then committed else fresh

theorem Slot.same_self (hrefl : ∀ a : α, a == a) (s : Slot α) : s.same s := by
  cases s with
  | none => rfl
  | some r => exact hrefl r.value

/-- A reading that has been taken up is no news. -/
theorem Slot.same_adopt (hrefl : ∀ a : α, a == a) (committed fresh : Slot α) :
    fresh.same (committed.adopt fresh) := by
  unfold adopt
  split
  · assumption
  · exact fresh.same_self hrefl

/-- Where equal values are identical, the fresh value is in force. -/
theorem Slot.map_value_adopt (heq : ∀ a b : α, a == b → a = b) (committed fresh : Slot α) :
    (committed.adopt fresh).map (·.value) = fresh.map (·.value) := by
  unfold adopt
  split
  · next hsame =>
    cases committed with
    | none => cases fresh <;> trivial
    | some r =>
      cases fresh with
      | none => cases hsame
      | some r' => exact congrArg some (heq _ _ hsame).symm
  · rfl

namespace DynamicValue

variable {d : DynamicValue α L}

/-- The value with a fresh reading taken up, and nothing staged. -/
def takeUp (d : DynamicValue α L) (fresh : Slot α) : DynamicValue α L :=
  { d with committed := d.committed.adopt fresh }.settle

theorem value_update_of_looks (hpolicy : d.policy ≠ .never) (fetch : Fetch α) :
    (d.update fetch).value
      = ((d.stage (resolve d.owner fetch d.keys).value).value,
          !(resolve d.owner fetch d.keys).value.same d.committed) := by
  rw [value_update, if_neg hpolicy]

/-- A commit puts what has been staged into force. -/
theorem value_commit_stage (hpolicy : d.policy ≠ .logOnly) (fresh : Slot α) :
    (d.stage fresh).value.commit.value.1 = d.takeUp fresh := by
  rw [value_commit, value_stage, takeUp, Slot.adopt]
  by_cases hsame : fresh.same d.committed = true
  · rw [if_pos (.inl hsame), if_pos hsame]
    rfl
  · rw [if_neg (by simp [hsame, hpolicy]), if_neg hsame]
    rfl

theorem value_get_of_immediate (hpolicy : d.policy = .immediate) (fetch : Fetch α) :
    (d.get fetch).value.1 = d.takeUp (resolve d.owner fetch d.keys).value := by
  rw [value_get, if_pos hpolicy, value_update_of_looks (hpolicy ▸ nofun)]
  cases hsame : (resolve d.owner fetch d.keys).value.same d.committed with
  | true =>
    -- What is no news has cleared the stage already.
    change (d.stage (resolve d.owner fetch d.keys).value).value = _
    rw [value_stage, if_pos (.inl hsame), takeUp, Slot.adopt, if_pos hsame]
  | false => exact value_commit_stage (hpolicy ▸ nofun) _

/-- Another look at the same configuration finds nothing new. -/
theorem value_update_takeUp (hrefl : ∀ a : α, a == a) (fetch : Fetch α) :
    ((d.takeUp (resolve d.owner fetch d.keys).value).update fetch).value.2 = false := by
  rw [value_update]
  split
  · rfl
  · exact congrArg not (d.committed.same_adopt hrefl (resolve d.owner fetch d.keys).value)

/-- A value goes to what the first key in its row that gives anything gives; a key is passed over
if it has no property, or one without a text, or one that cannot be evaluated or converted. An
update finds out whether that differs from what is in force, and leaves this as it is. A read
under the immediate policy puts it into force before it gives it, and so does a commit after an
update under either policy that stages; then nothing is staged, and, if values equal themselves,
another update finds nothing new. A reading that equals the one in force is taken for it, and does
not come into force in its place: where equal values are identical, the fresh value always is the
one in force. -/
theorem follows_configuration (c : Configuration) (σ : Sources)
    (convert : String → String → Except Error α) (d : DynamicValue α L) :
    let fetch := c.readAs σ convert
    let fresh := (resolve d.owner fetch d.keys).value
    let adopted := d.committed.adopt fresh
    (∀ r, fresh = some r ↔ ∃ passed rest, d.keys = passed ++ r.key :: rest ∧
      c.Gives σ convert r.key r.value ∧
      ∀ key ∈ passed, ∀ value, ¬ c.Gives σ convert key value) ∧
    (d.policy = .immediate →
      let read := (d.get fetch).value.1
      read.committed = adopted ∧ read.staged = none) ∧
    (d.policy ≠ .never →
      let updated := (d.update fetch).value
      (updated.2 = true ↔ fresh.same d.committed = false) ∧
      updated.1.committed = d.committed) ∧
    (d.policy = .explicit ∨ d.policy = .immediate →
      let after := (d.update fetch).value.1.commit.value.1
      after.committed = adopted ∧ after.staged = none ∧
      ((∀ a : α, a == a) → (after.update fetch).value.2 = false)) ∧
    ((∀ a b : α, a == b → a = b) → adopted.map (·.value) = fresh.map (·.value)) := by
  intro fetch fresh adopted
  refine ⟨?_, ?_, ?_, ?_, fun heq => d.committed.map_value_adopt heq fresh⟩
  · intro r
    simp only [← Configuration.value_readAs_eq_some_iff]
    exact value_resolve_eq_some_iff
  · intro hpolicy read
    have hread : read = d.takeUp fresh := value_get_of_immediate hpolicy fetch
    rw [hread]
    exact ⟨rfl, rfl⟩
  · intro hpolicy updated
    obtain ⟨staged, state, hframe⟩ := value_update_frame fetch d
    have hchanged : updated.2 = !fresh.same d.committed :=
      congrArg Prod.snd (value_update_of_looks hpolicy fetch)
    refine ⟨?_, by rw [hframe]⟩
    rw [hchanged, Bool.not_eq_true']
  · intro hpolicy after
    have hlooks : d.policy ≠ .never := by
      rcases hpolicy with h | h <;> rw [h] <;> nofun
    have happlies : d.policy ≠ .logOnly := by
      rcases hpolicy with h | h <;> rw [h] <;> nofun
    have hafter : after = d.takeUp fresh := by
      rw [← value_commit_stage happlies fresh]
      exact congrArg (·.1.commit.value.1) (value_update_of_looks hlooks fetch)
    rw [hafter]
    exact ⟨rfl, rfl, fun hrefl => value_update_takeUp hrefl fetch⟩

/-- A key without a property comes before a null, a word, a placeholder that is never closed, and
the number, which has changed twice since the value was read. -/
theorem follows_configuration_past_misses :
    let app : CustomSource :=
      { name := "app"
        content := .ofList [("null", { key := "null", value := none, source := "app" }),
          ("word", .text "word" "eighty" "app"), ("open", .text "open" "<$\x7bword" "app"),
          ("port", .text "port" "80" "app")] }
    let σ : Sources := ⟨#[.custom app]⟩
    let c : Configuration :=
      { registry := (Registry.empty.withSources (σ.mounts [0])).value
        evaluator := some ⟨[.configuration], .mask, 10⟩ }
    let reading : Fetch Int := c.getAs σ (.int .u16)
    let d : DynamicValue Int Nat :=
      { keys := ["gone", "null", "word", "open", "port"], owner := "port"
        committed := some ⟨"port", 70⟩, staged := some (some ⟨"port", 75⟩)
        policy := .immediate, state := .stale }
    let after := (d.update reading).value.1.commit.value.1
    (d.get reading).value.1.value? = some 80 ∧ (d.get reading).value.1.staged = none ∧
    (d.update reading).value.2 = true ∧ after.value? = some 80 ∧
    (after.update reading).value.2 = false := by
  intro app σ c reading d after
  have hfresh : (resolve d.owner reading d.keys).value = some ⟨"port", 80⟩ := by decide +kernel
  have hfollows := follows_configuration c σ (c.converters.convert (.int .u16)) d
  rw [← c.getAs_eq_readAs σ (.int .u16), show c.getAs σ (.int .u16) = reading from rfl] at hfollows
  -- From here on nothing but its outcome is needed of the reading.
  clear_value reading
  obtain ⟨-, hget, hupdate, hcommit, hidentical⟩ := hfollows
  have hvalue := hidentical fun a b => (eq_of_beq : (a == b) = true → a = b)
  obtain ⟨hread, hnothing⟩ := hget rfl
  obtain ⟨hafter, -, hsettled⟩ := hcommit (.inr rfl)
  have hadopted : (d.committed.adopt (resolve d.owner reading d.keys).value).map (·.value)
      = some 80 := hvalue.trans (congrArg (Option.map (·.value)) hfresh)
  refine ⟨?_, hnothing, (hupdate nofun).1.mpr ?_, ?_, hsettled fun a => BEq.refl a⟩
  · exact (congrArg (Option.map (·.value)) hread).trans hadopted
  · exact congrArg (Slot.same · d.committed) hfresh
  · exact (congrArg (Option.map (·.value)) hafter).trans hadopted

/-- The two zeros are equal: a value that was read as the one stays at it under the immediate
policy once the configuration has the other. -/
theorem get_keeps_equal_zero :
    let σ (text : String) : Sources :=
      ⟨#[.memory { name := "app", entries := .ofList [("ratio", text)] }]⟩
    let c : Configuration :=
      { registry := (Registry.empty.withSources ((σ "0.0").mounts [0])).value }
    let reading (text : String) := c.getAs (σ text) (.float .f64)
    let zero (negative : Bool) : Binary := .finite negative 0 (-1074)
    ∃ d : DynamicValue Binary Nat, d.Reachable ∧ d.keys = ["ratio"] ∧ d.policy = .immediate ∧
      (reading "-0.0" "ratio").value = .ok (some (zero true)) ∧
      (d.get (reading "-0.0")).value.1.value? = some (zero false) ∧ zero true ≠ zero false := by
  intro σ c reading zero
  let toImmediate : Turn Binary Nat := .step ⟨.setPolicy .immediate, reading "0.0"⟩
  exact ⟨_, ⟨["ratio"], reading "0.0", _, rfl, [toImmediate], rfl⟩, rfl, rfl, rfl, rfl, nofun⟩

end DynamicValue

end LayeredConfig
