import LayeredConfig.Configuration
import Mathlib.Data.List.Basic
import Mathlib.Data.List.Dedup

/-!
# Converters and their registrations

A registry is told by the registrations that it comes of, in their order. Of each type it has the
converters that were registered for it, the latest first, wherever they were registered: with the
registry itself, while a configuration was built, or after that.
-/
namespace LayeredConfig

variable {κ : Type} [TypeFamily κ]

namespace Converters

/-! ## Registrations for one type -/

/-- A converter, with the type that it is registered for. -/
abbrev Registration (κ : Type) [TypeFamily κ] : Type := (k : κ) × Converter k

/-- The converters that are registered for the type, in the order of their registrations. -/
def registeredFor (k : κ) (rs : List (Registration κ)) : List (Converter k) :=
  rs.filterMap fun r => if h : r.1 = k then some (h ▸ r.2) else none

section OneType

variable {k : κ} {f : Converter k} {rs : List (Registration κ)}

theorem mem_registeredFor : f ∈ registeredFor k rs ↔ ⟨k, f⟩ ∈ rs := by
  simp only [registeredFor, List.mem_filterMap]
  constructor
  · rintro ⟨⟨j, g⟩, hmem, hg⟩
    split at hg
    · next hj =>
      cases hj
      cases hg
      exact hmem
    · cases hg
  · exact fun hmem => ⟨⟨k, f⟩, hmem, dif_pos rfl⟩

theorem registeredFor_eq_nil_iff : registeredFor k rs = [] ↔ k ∉ rs.map (·.1) := by
  rw [List.eq_nil_iff_forall_not_mem, List.mem_map]
  constructor
  · rintro h ⟨⟨j, g⟩, hmem, rfl⟩
    exact h g (mem_registeredFor.mpr hmem)
  · exact fun h g hg => h ⟨⟨k, g⟩, mem_registeredFor.mp hg, rfl⟩

theorem registeredFor_append (rs rs' : List (Registration κ)) :
    registeredFor k (rs ++ rs') = registeredFor k rs ++ registeredFor k rs' :=
  List.filterMap_append

/-- Registrations for other types are nothing to this one. -/
theorem registeredFor_filter (rs : List (Registration κ)) :
    registeredFor k (rs.filter (·.1 = k)) = registeredFor k rs := by
  simp only [registeredFor, List.filterMap_filter]
  congr 1
  funext r
  by_cases hr : r.1 = k <;> simp [hr]

theorem registeredFor_map_of_notMem (f : (j : κ) → Converter j) {ks : List κ} (h : k ∉ ks) :
    registeredFor k (ks.map fun j => ⟨j, f j⟩) = [] := by
  rw [registeredFor_eq_nil_iff, List.map_map]
  simpa [Function.comp_def] using h

/-- Where each type is given one converter, this is the one that is registered for it. -/
theorem registeredFor_map (f : (j : κ) → Converter j) {ks : List κ} (hnodup : ks.Nodup)
    (h : k ∈ ks) : registeredFor k (ks.map fun j => ⟨j, f j⟩) = [f k] := by
  induction ks with
  | nil => cases h
  | cons j ks ih =>
    obtain ⟨hj, hks⟩ := List.nodup_cons.mp hnodup
    rw [List.map_cons, ← List.singleton_append, registeredFor_append]
    rcases List.mem_cons.mp h with rfl | hk
    · rw [registeredFor_map_of_notMem f hj]
      simp [registeredFor]
    · have hne : j ≠ k := fun hjk => hj (hjk ▸ hk)
      simp [registeredFor, hne, ← ih hks hk]

end OneType

/-! ## What a registry keeps of its registrations -/

/-- Of each type, the registry has the converters of these registrations, the latest first. -/
def Keeps (cs : Converters κ) (rs : List (Registration κ)) : Prop :=
  ∀ k, cs.table k = (registeredFor k rs).reverse

theorem keeps_empty : (empty κ).Keeps [] := fun _ => rfl

namespace Keeps

variable {cs : Converters κ} {rs : List (Registration κ)}

theorem register (h : cs.Keeps rs) (k : κ) (f : Converter k) :
    (cs.register k f).Keeps (rs ++ [⟨k, f⟩]) := by
  intro j
  rw [registeredFor_append, List.reverse_append, ← h j]
  by_cases hkind : k = j
  · subst hkind
    simp [Converters.register, registeredFor]
  · simp [Converters.register, registeredFor, hkind]

theorem registerAll (h : cs.Keeps rs) (later : List (Registration κ)) :
    (cs.registerAll later).Keeps (rs ++ later) := by
  induction later generalizing cs rs with
  | nil => simpa [Converters.registerAll] using h
  | cons r later ih =>
    rw [List.append_cons]
    exact ih (h.register r.1 r.2)

end Keeps

theorem keeps_defaults : (defaults κ).Keeps TypeFamily.standard :=
  keeps_empty.registerAll _

/-! ## Answers -/

section Answers

variable (cs : Converters κ) (k : κ) (key raw : String)

theorem convert_eq_ok_iff {value : TypeFamily.Carrier k} :
    cs.convert k key raw = .ok value ↔ (cs.table k).findSome? (· raw) = some value := by
  unfold convert has
  cases hfound : (cs.table k).findSome? (· raw) with
  | none => split <;> simp
  | some found =>
    have hsome : cs.table k ≠ [] := by
      intro hnil
      rw [hnil] at hfound
      cases hfound
    simp [hsome]

theorem convert_eq_noConverter_iff :
    cs.convert k key raw = .error (.noConverter (TypeFamily.typeName k)) ↔ cs.table k = [] := by
  unfold convert has
  cases cs.table k with
  | nil => simp
  | cons f fs => cases (f :: fs).findSome? (· raw) <;> simp

theorem convert_eq_conversion_iff :
    cs.convert k key raw = .error (.conversion key raw (TypeFamily.typeName k)) ↔
      cs.table k ≠ [] ∧ ∀ f ∈ cs.table k, f raw = none := by
  rw [← List.findSome?_eq_none_iff]
  unfold convert has
  cases cs.table k with
  | nil => simp
  | cons f fs => cases (f :: fs).findSome? (· raw) <;> simp

end Answers

/-- In a list that is searched from its end, the latest that gives an answer gives the answer. -/
theorem findSome?_reverse_eq_some_iff {α β : Type} {f : α → Option β} {as : List α} {b : β} :
    as.reverse.findSome? f = some b ↔
      ∃ before a after, as = before ++ a :: after ∧ f a = some b ∧ ∀ c ∈ after, f c = none := by
  rw [List.findSome?_eq_some_iff]
  constructor
  · rintro ⟨after, a, before, has, ha, hafter⟩
    refine ⟨before.reverse, a, after.reverse, ?_, ha, by simpa using hafter⟩
    simpa using congrArg List.reverse has
  · rintro ⟨before, a, after, rfl, ha, hafter⟩
    exact ⟨after.reverse, a, before.reverse, by simp, ha, by simpa using hafter⟩

namespace Keeps

variable {cs : Converters κ} {rs : List (Registration κ)}

theorem table_eq_nil_iff (h : cs.Keeps rs) {k : κ} : cs.table k = [] ↔ k ∉ rs.map (·.1) := by
  rw [h k, List.reverse_eq_nil_iff, registeredFor_eq_nil_iff]

theorem mem_table (h : cs.Keeps rs) {k : κ} {f : Converter k} :
    f ∈ cs.table k ↔ ⟨k, f⟩ ∈ rs := by
  rw [h k, List.mem_reverse, mem_registeredFor]

/-- Registries that agree on the registrations for a type have the same converters of it. -/
theorem table_congr (h : cs.Keeps rs) {cs' : Converters κ} {rs' : List (Registration κ)}
    (h' : cs'.Keeps rs') {k : κ} (hrs : rs.filter (·.1 = k) = rs'.filter (·.1 = k)) :
    cs.table k = cs'.table k := by
  rw [h k, h' k, ← registeredFor_filter rs, hrs, registeredFor_filter]

theorem size_eq (h : cs.Keeps rs) : cs.size = (rs.map (·.1)).dedup.length := by
  -- Both list the same types, each of them once.
  apply List.Perm.length_eq
  rw [List.perm_ext_iff_of_nodup cs.nodup_types (List.nodup_dedup _)]
  intro k
  rw [cs.mem_types, ne_eq, h.table_eq_nil_iff, not_not, List.mem_dedup]

end Keeps

end Converters

/-! ## Where converters are registered -/

open Converters

/-- What converters can be registered with. -/
inductive Keeper (κ : Type) [TypeFamily κ] where
  | registry (cs : Converters κ)
  | builder (b : Configuration.Builder κ)
  | configuration (c : Configuration κ)

namespace Keeper

def converters : Keeper κ → Converters κ
  | registry cs => cs
  | builder b => b.converters
  | configuration c => c.converters

/-- A registry, or what is built with one, comes of these registrations. Where a builder is given a
registry, those of the registry are its own from then on. -/
inductive ComesOf : Keeper κ → List (Registration κ) → Prop where
  | empty : ComesOf (registry (.empty κ)) []
  | defaults : ComesOf (registry (.defaults κ)) TypeFamily.standard
  | register {cs : Converters κ} {rs : List (Registration κ)} (k : κ) (f : Converter k) :
      ComesOf (registry cs) rs → ComesOf (registry (cs.register k f)) (rs ++ [⟨k, f⟩])
  | ofConfiguration {c : Configuration κ} {rs : List (Registration κ)} :
      ComesOf (configuration c) rs → ComesOf (registry c.converters) rs
  | newBuilder : ComesOf (builder ({} : Configuration.Builder κ)) TypeFamily.standard
  | withConverter {b : Configuration.Builder κ} {rs : List (Registration κ)} (k : κ)
      (f : Converter k) :
      ComesOf (builder b) rs → ComesOf (builder (b.withConverter k f)) (rs ++ [⟨k, f⟩])
  | withConverters {b : Configuration.Builder κ} {cs : Converters κ}
      {rs rs' : List (Registration κ)} :
      ComesOf (builder b) rs → ComesOf (registry cs) rs' →
      ComesOf (builder (b.withConverters cs)) rs'
  | withSources {b : Configuration.Builder κ} {rs : List (Registration κ)} (batch : List Mount) :
      ComesOf (builder b) rs → ComesOf (builder (b.withSources batch)) rs
  | withCombination {b : Configuration.Builder κ} {rs : List (Registration κ)}
      (combination : Combination) :
      ComesOf (builder b) rs → ComesOf (builder (b.withCombination combination)) rs
  | withFilter {b : Configuration.Builder κ} {rs : List (Registration κ)} (f : Filter) :
      ComesOf (builder b) rs → ComesOf (builder (b.withFilter f)) rs
  | withExpressions {b : Configuration.Builder κ} {rs : List (Registration κ)}
      (f : Evaluator.Builder → Evaluator.Builder) :
      ComesOf (builder b) rs → ComesOf (builder (b.withExpressions f)) rs
  | build {b : Configuration.Builder κ} {c : Configuration κ} {rs : List (Registration κ)} :
      ComesOf (builder b) rs → b.build.value = .ok c → ComesOf (configuration c) rs
  | newConfiguration : ComesOf (configuration ({} : Configuration κ)) TypeFamily.standard
  | addConverter {c : Configuration κ} {rs : List (Registration κ)} (k : κ) (f : Converter k) :
      ComesOf (configuration c) rs → ComesOf (configuration (c.addConverter k f)) (rs ++ [⟨k, f⟩])
  | addSources {c : Configuration κ} {rs : List (Registration κ)} (batch : List Mount) :
      ComesOf (configuration c) rs → ComesOf (configuration (c.addSources batch).value) rs
  | removeSources {c : Configuration κ} {rs : List (Registration κ)} (names : List String) :
      ComesOf (configuration c) rs → ComesOf (configuration (c.removeSources names).value) rs

variable {p : Keeper κ} {rs : List (Registration κ)}

theorem ComesOf.keeps (h : p.ComesOf rs) : p.converters.Keeps rs := by
  -- Three steps register something, one hands a registry over, and all others leave it alone.
  induction h with
  | empty => exact keeps_empty
  | defaults | newBuilder | newConfiguration => exact keeps_defaults
  | register k f _ ih | withConverter k f _ ih | addConverter k f _ ih => exact ih.register k f
  | withConverters _ _ _ ih => exact ih
  | build _ hbuild ih =>
    obtain ⟨evaluator, -, rfl⟩ := Configuration.Builder.eq_of_value_build hbuild
    exact ih
  | ofConfiguration _ ih | withSources _ _ ih | withCombination _ _ ih | withFilter _ _ ih
  | withExpressions _ _ ih | addSources _ _ ih | removeSources _ _ ih => exact ih

/-- A text is converted by the converter that was registered last of those for the type that accept
it. It is an error of one kind if none was registered for the type, and of another if all of them
reject the text. What is registered for other types makes no difference. The size is the number of
types that something was registered for. A converter that is added to a configuration leaves all
else of it as it was. -/
theorem convert_by_latest_accepting (h : p.ComesOf rs) (k : κ) (key raw : String) :
    (∀ value, p.converters.convert k key raw = .ok value ↔
      ∃ before f after, registeredFor k rs = before ++ f :: after ∧ f raw = some value ∧
        ∀ g ∈ after, g raw = none) ∧
    (p.converters.convert k key raw = .error (.noConverter (TypeFamily.typeName k)) ↔
      ∀ f, ⟨k, f⟩ ∉ rs) ∧
    (p.converters.convert k key raw = .error (.conversion key raw (TypeFamily.typeName k)) ↔
      (∃ f, ⟨k, f⟩ ∈ rs) ∧ ∀ f, ⟨k, f⟩ ∈ rs → f raw = none) ∧
    (∀ (q : Keeper κ) (rs' : List (Registration κ)), q.ComesOf rs' →
      rs.filter (·.1 = k) = rs'.filter (·.1 = k) →
      p.converters.convert k key raw = q.converters.convert k key raw) ∧
    p.converters.size = (rs.map (·.1)).dedup.length ∧
    ∀ (c : Configuration κ) (f : Converter k),
      (c.addConverter k f).registry = c.registry ∧ (c.addConverter k f).filters = c.filters ∧
      (c.addConverter k f).combination = c.combination ∧
      (c.addConverter k f).evaluator = c.evaluator := by
  have hkeeps := h.keeps
  refine ⟨fun value => ?_, ?_, ?_, fun q rs' hq hrs => ?_, hkeeps.size_eq,
    fun c f => ⟨rfl, rfl, rfl, rfl⟩⟩
  · rw [convert_eq_ok_iff, hkeeps k, findSome?_reverse_eq_some_iff]
  · rw [convert_eq_noConverter_iff, List.eq_nil_iff_forall_not_mem]
    exact forall_congr' fun f => not_congr hkeeps.mem_table
  · rw [convert_eq_conversion_iff, ne_eq, List.eq_nil_iff_forall_not_mem]
    simp only [not_forall, not_not, hkeeps.mem_table]
  · rw [convert, convert, has, has, hkeeps.table_congr hq.keeps hrs]

/-- The builder's own converter for truth values goes when the builder is given another registry. Of
those that count, the one that is added to the built configuration is asked first, and the one that
came with the registry after it. -/
theorem convert_by_latest_accepting_over_replaced :
    let one : Converter (Kind.int .i32) := fun raw => if raw = "one" then some 1 else none
    let flag : Converter Kind.bool := fun raw => if raw = "enabled" then some true else none
    let cs : Converters := (Converters.empty.register (.int .i32) one).register .bool readBool?
    let denying : Converter Kind.bool := fun _ => some false
    let b := ({} : Configuration.Builder).withConverter .bool denying
    ∃ c, (b.withConverters cs).build.value = .ok c ∧
      (let added := (c.addConverter .bool flag).converters
      added.convert .bool "k" "enabled" = .ok true ∧ added.convert .bool "k" "off" = .ok false ∧
      added.convert .bool "k" "one" = .error (.conversion "k" "one" "bool") ∧
      added.convert .string "k" "one" = .error (.noConverter "alloc::string::String") ∧
      added.convert .bool "k" "on"
        = ((Converters.empty.register .bool readBool?).register .bool flag).convert .bool "k" "on" ∧
      added.size = 2) := by
  intro one flag cs denying b
  refine ⟨{ converters := cs }, rfl, ?_⟩
  have hcs : ComesOf (registry cs) [⟨.int .i32, one⟩, ⟨.bool, readBool?⟩] :=
    .register .bool readBool? (.register (.int .i32) one .empty)
  have hbuilt : ComesOf (configuration { converters := cs })
      [⟨.int .i32, one⟩, ⟨.bool, readBool?⟩] :=
    .build (.withConverters (.withConverter .bool denying .newBuilder) hcs) rfl
  have hadded := hbuilt.addConverter .bool flag
  have hbool : registeredFor Kind.bool [⟨.int .i32, one⟩, ⟨.bool, readBool?⟩, ⟨.bool, flag⟩]
      = [readBool?, flag] := by
    simp [registeredFor]
  have halone : ComesOf (registry ((Converters.empty.register .bool readBool?).register .bool flag))
      [⟨.bool, readBool?⟩, ⟨.bool, flag⟩] :=
    .register .bool flag (.register .bool readBool? .empty)
  refine ⟨?_, ?_, ?_, ?_, ?_, ?_⟩
  · exact ((convert_by_latest_accepting hadded .bool "k" "enabled").1 true).mpr
      ⟨[readBool?], flag, [], hbool, by decide, nofun⟩
  · exact ((convert_by_latest_accepting hadded .bool "k" "off").1 false).mpr
      ⟨[], readBool?, [flag], hbool, by decide +kernel, by decide⟩
  · refine (convert_by_latest_accepting hadded .bool "k" "one").2.2.1.mpr
      ⟨⟨flag, by simp⟩, fun f hf => ?_⟩
    obtain rfl | rfl : f = readBool? ∨ f = flag := by simpa using hf
    · decide +kernel
    · decide
  · exact (convert_by_latest_accepting hadded .string "k" "one").2.1.mpr (by simp)
  · exact (convert_by_latest_accepting hadded .bool "k" "on").2.2.2.1 _ _ halone rfl
  · exact (convert_by_latest_accepting hadded .bool "k" "").2.2.2.2.1.trans (by decide)

end Keeper

end LayeredConfig
