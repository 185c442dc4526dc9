import LayeredConfig.Proofs.Propagation.Routing
import Mathlib.Data.List.Nodup

/-!
# Outcomes tell the truth

Which sources a policy asks, and with which part of a request, is settled by the request and
by what the sources hold beforehand. The outcome of a propagation names just those of them
that accepted, every other one is left as it was, and nothing that failed is passed over.
-/
namespace LayeredConfig

/-! ## What each policy asks for -/

namespace Policy

/-- The part of a request that the policy has for a source. -/
def share (p : Policy) (r : ChangeRequest) (targets : List Mount) (m : Mount) : ChangeRequest :=
  match p with
  | firstMatching fallback =>
    r.restrict fun key => (recipient? targets fallback key).any (·.name == m.name)
  | _ => r

/-- The policy asks the source. -/
def selects (p : Policy) (r : ChangeRequest) (targets : List Mount) (m : Mount) : Bool :=
  match p with
  | all => true
  | firstMatching _ => !(p.share r targets m).isEmpty
  | mostSignificant => targets.head?.any (·.name == m.name)
  | selective names => names.contains m.name
  | dryRun => false

/-- The failures for which there is no source to ask. -/
def shortfalls (p : Policy) (r : ChangeRequest) (targets : List Mount) : List Failure :=
  match p with
  | all | mostSignificant => if targets.isEmpty then [⟨"*", noMutableSource⟩] else []
  | firstMatching fallback =>
    (r.keys.filter fun key => (recipient? targets fallback key).isNone).map (unroutable fallback)
  | selective names =>
    (names.keys.filter fun name => !targets.any (·.name == name)).map fun name =>
      ⟨name, (Error.notMutable name).message⟩
  | dryRun => []

def errands (p : Policy) (r : ChangeRequest) (targets : List Mount) : List Errand :=
  (targets.filter (p.selects r targets)).map fun m => ⟨m, p.share r targets m⟩

end Policy

variable {p : Policy} {r : ChangeRequest} {targets : List Mount} {σ : Sources}

/-! ## Names and identities -/

theorem nodup_ids (hmounted : Errand.Mounted targets σ) (hnames : (targets.map Mount.name).Nodup) :
    (targets.map Mount.id).Nodup := by
  refine List.pairwise_map.mpr ((List.pairwise_map.mp hnames).imp_of_mem ?_)
  intro a b ha hb hne hid
  have hsources : some a.source = some b.source := by
    rw [← hmounted a ha, ← hmounted b hb, hid]
  exact hne (congrArg Source.name (Option.some.inj hsources))

/-- Of sources of different names, the first is the only one of its name. -/
theorem filter_name_head {m : Mount} {ms : List Mount}
    (hnames : ((m :: ms).map Mount.name).Nodup) :
    (m :: ms).filter (fun n => m.name == n.name) = [m] := by
  obtain ⟨hm, _⟩ := List.nodup_cons.mp hnames
  rw [List.filter_cons_of_pos (by simp), List.filter_eq_nil_iff.mpr]
  intro n hn heq
  exact hm (beq_iff_eq.mp heq ▸ List.mem_map_of_mem hn)

/-! ## The account of a propagation -/

/-- A propagation runs the errands of its policy, and records what it has nobody to ask for. -/
structure Accounted (p : Policy) (r : ChangeRequest) (targets : List Mount) (σ : Sources)
    (x : Journaled (Outcome × Sources)) : Prop where
  requestId : x.value.1.requestId = r.id
  applied : x.value.1.applied
    = ((p.errands r targets).filter Errand.isAccepted).map (·.mount.name)
  failures : x.value.1.failures.Perm
    (p.shortfalls r targets ++ (p.errands r targets).filterMap Errand.refusal?)
  asked : x.journal.changes = (p.errands r targets).map (·.mount.id)
  reached : ∀ e ∈ p.errands r targets,
    x.value.2.get? e.mount.id = some (e.mount.source.after e.request)
  others : ∀ id, id ∉ (p.errands r targets).map (·.mount.id) → x.value.2.get? id = σ.get? id

theorem Errand.Done.accounted {o : Outcome} {x : Journaled (Outcome × Sources)}
    (h : Done (p.errands r targets) o σ x) (hid : o.requestId = r.id) (happlied : o.applied = [])
    (hfailures : o.failures = p.shortfalls r targets) : Accounted p r targets σ x where
  requestId := by simp [h.outcome, report, hid]
  applied := by simp [h.outcome, report, happlied]
  failures := by simp [h.outcome, report, hfailures]
  asked := h.asked
  reached := h.reached
  others := h.others

/-! ### To every source, to the first, to none -/

theorem accounted_all (hmounted : Errand.Mounted targets σ)
    (hnames : (targets.map Mount.name).Nodup) :
    Accounted .all r targets σ (Policy.all.propagate r targets σ) := by
  have hselects : Policy.all.selects r targets = fun _ => true := rfl
  have herrands : Policy.all.errands r targets = targets.map (⟨·, r⟩) := by
    rw [Policy.errands, hselects, List.filter_true]
    rfl
  cases targets with
  | nil => exact ⟨rfl, rfl, .refl _, rfl, nofun, fun _ _ => rfl⟩
  | cons m ms =>
    refine Errand.Done.accounted (o := .new r.id) ?_ rfl rfl rfl
    rw [herrands]
    exact Errand.done_applyToAll r hmounted (nodup_ids hmounted hnames) _

theorem accounted_mostSignificant (hmounted : Errand.Mounted targets σ)
    (hnames : (targets.map Mount.name).Nodup) :
    Accounted .mostSignificant r targets σ (Policy.mostSignificant.propagate r targets σ) := by
  cases targets with
  | nil => exact ⟨rfl, rfl, .refl _, rfl, nofun, fun _ _ => rfl⟩
  | cons m ms =>
    have hselects : Policy.mostSignificant.selects r (m :: ms) = fun n => m.name == n.name := rfl
    have herrands : Policy.mostSignificant.errands r (m :: ms) = [⟨m, r⟩] := by
      rw [Policy.errands, hselects, filter_name_head hnames]
      rfl
    refine Errand.Done.accounted (o := .new r.id) ?_ rfl rfl rfl
    rw [herrands]
    exact Errand.done_applyTo (hmounted m List.mem_cons_self) r _

theorem accounted_dryRun :
    Accounted .dryRun r targets σ (Policy.dryRun.propagate r targets σ) := by
  have hselects : Policy.dryRun.selects r targets = fun _ => false := rfl
  have herrands : Policy.dryRun.errands r targets = [] := by
    rw [Policy.errands, hselects, List.filter_false]
    rfl
  refine Errand.Done.accounted (o := .new r.id) ?_ rfl rfl rfl
  rw [herrands]
  exact (Errand.Done.nil (.new r.id) σ).congr rfl rfl

/-! ### To named sources -/

theorem value_recordMissing (names : List String) (o : Outcome) :
    (Policy.recordMissing targets names o).value
      = { o with
          failures := o.failures ++
            (names.filter fun name => !targets.any (·.name == name)).map fun name =>
              ⟨name, (Error.notMutable name).message⟩ } := by
  rw [Policy.recordMissing, Journaled.value_foldlM]
  generalize names.filter _ = missing
  induction missing generalizing o with
  | nil => simp
  | cons name missing ih =>
    rw [List.foldl_cons, ih]
    simp [Outcome.recordFailure]

theorem changes_recordMissing (names : List String) (o : Outcome) :
    (Policy.recordMissing targets names o).journal.changes = [] := by
  unfold Policy.recordMissing
  generalize names.filter _ = missing
  induction missing generalizing o with
  | nil => rfl
  | cons name missing ih =>
    rw [List.foldlM_cons, Journaled.journal_bind, Journal.changes_append, ih]
    rfl

theorem accounted_selective (names : StringSet) (hmounted : Errand.Mounted targets σ)
    (hnames : (targets.map Mount.name).Nodup) :
    Accounted (.selective names) r targets σ
      ((Policy.selective names).propagate r targets σ) := by
  have hchosen : Errand.Mounted (targets.filter fun m => names.contains m.name) σ := fun m hm =>
    hmounted m (List.mem_of_mem_filter hm)
  have hdone := Errand.done_applyToAll r hchosen
    ((nodup_ids hmounted hnames).sublist (List.filter_sublist.map _)) (.new r.id)
  have hvalue : ((Policy.selective names).propagate r targets σ).value
      = ((Policy.recordMissing targets names.keys (Errand.report (.new r.id)
          ((Policy.selective names).errands r targets))).value,
        (applyToAll r (targets.filter fun m => names.contains m.name) (.new r.id) σ).value.2) :=
    congrArg (fun o => ((Policy.recordMissing targets names.keys o).value, _)) hdone.outcome
  refine ⟨?_, ?_, ?_, ?_, ?_, ?_⟩
  · rw [hvalue, value_recordMissing]
    rfl
  · rw [hvalue, value_recordMissing]
    rfl
  · rw [hvalue, value_recordMissing]
    -- Those that were asked are recorded before those that are not there.
    exact List.perm_append_comm
  · simp only [Policy.propagate, Journaled.journal_bind, Journal.changes_append,
      changes_recordMissing, Journaled.journal_pure, List.append_nil]
    exact hdone.asked
  · rw [hvalue]
    exact hdone.reached
  · rw [hvalue]
    exact hdone.others

/-! ### To the holder of each key -/

theorem ofParts_route (hnames : (targets.map Mount.name).Nodup) (fallback : String)
    (o : Outcome) :
    Errand.ofParts r (route targets fallback r.keys o).value.1 targets.zipIdx
      = (Policy.firstMatching fallback).errands r targets := by
  have hshares : (targets.zipIdx.map fun place =>
        (⟨place.1, r.part (route targets fallback r.keys o).value.1 place.2⟩ : Errand))
      = (targets.zipIdx.map (·.1)).map fun m =>
          ⟨m, (Policy.firstMatching fallback).share r targets m⟩ := by
    rw [List.map_map]
    apply List.map_congr_left
    intro place hplace
    have hm : targets[place.2]? = some place.1 := List.mem_zipIdx_iff_getElem?.mp hplace
    simp only [Function.comp_apply, r.part_route, Policy.share,
      place?_beq_some hnames hm fallback]
  rw [List.zipIdx_map_fst] at hshares
  refine (congrArg (List.filter (!·.request.isEmpty)) hshares).trans ?_
  rw [List.filter_map]
  rfl

theorem accounted_firstMatching (fallback : String) (hmounted : Errand.Mounted targets σ)
    (hnames : (targets.map Mount.name).Nodup) :
    Accounted (.firstMatching fallback) r targets σ
      ((Policy.firstMatching fallback).propagate r targets σ) := by
  have hplaces : Errand.Mounted (targets.zipIdx.map (·.1)) σ := by
    rwa [List.zipIdx_map_fst]
  have hids : ((targets.zipIdx.map (·.1)).map Mount.id).Nodup := by
    rw [List.zipIdx_map_fst]
    exact nodup_ids hmounted hnames
  have hparts := Errand.done_applyParts r (route targets fallback r.keys (.new r.id)).value.1
    hplaces hids (route targets fallback r.keys (.new r.id)).value.2
  rw [ofParts_route hnames] at hparts
  have hjournal : ((Policy.firstMatching fallback).propagate r targets σ).journal.changes
      = (applyParts r (route targets fallback r.keys (.new r.id)).value.1 targets.zipIdx
          (route targets fallback r.keys (.new r.id)).value.2 σ).journal.changes := by
    simp only [Policy.propagate, Journaled.journal_bind, Journal.changes_append, changes_route]
    rfl
  have hdone := hparts.congr (y := (Policy.firstMatching fallback).propagate r targets σ) rfl
    hjournal
  refine hdone.accounted ?_ ?_ ?_
  · rw [value_route]
    rfl
  · rw [value_route]
    rfl
  · rw [value_route]
    rfl

theorem accounted_propagate (p : Policy) (r : ChangeRequest) (hmounted : Errand.Mounted targets σ)
    (hnames : (targets.map Mount.name).Nodup) :
    Accounted p r targets σ (p.propagate r targets σ) := by
  cases p with
  | all => exact accounted_all hmounted hnames
  | firstMatching fallback => exact accounted_firstMatching fallback hmounted hnames
  | mostSignificant => exact accounted_mostSignificant hmounted hnames
  | selective names => exact accounted_selective names hmounted hnames
  | dryRun => exact accounted_dryRun

/-! ## Truth -/

theorem touches_share {key : String} (h : r.touches key = false) (m : Mount) :
    (p.share r targets m).touches key = false := by
  obtain ⟨hputs, hremoves⟩ := ChangeRequest.get?_of_not_touches h
  cases p with
  | firstMatching fallback =>
    simp [Policy.share, ChangeRequest.touches, StringMap.contains,
      ChangeRequest.get?_puts_restrict, ChangeRequest.get?_removes_restrict, hputs, hremoves]
  | all | mostSignificant | selective | dryRun => exact h

/-- What a propagation reports, held against what became of the sources. -/
structure TellsTruth (p : Policy) (r : ChangeRequest) (targets : List Mount) (σ : Sources)
    (x : Journaled (Outcome × Sources)) : Prop where
  /-- The sources that the policy selects are asked, whether or not others fail. -/
  asked : x.journal.changes = (targets.filter (p.selects r targets)).map Mount.id
  asked_once : x.journal.changes.Nodup
  in_order : x.value.1.applied.Sublist (targets.map Mount.name)
  mem_applied_iff : ∀ m ∈ targets, m.name ∈ x.value.1.applied ↔
    m.id ∈ x.journal.changes ∧ m.source.accepts (p.share r targets m)
  changed : ∀ m ∈ targets, m.name ∈ x.value.1.applied → ∃ s, x.value.2.get? m.id = some s ∧
    (p.share r targets m).CarriedOut m.source.holding? s.holding?
  kept : ∀ m ∈ targets, m.name ∉ x.value.1.applied → x.value.2.get? m.id = some m.source
  others : ∀ id, id ∉ targets.map Mount.id → x.value.2.get? id = σ.get? id
  untouched : ∀ m ∈ targets, ∃ s, x.value.2.get? m.id = some s ∧
    ∀ key, r.touches key = false → s.holding? key = m.source.holding? key
  failed : ∀ m ∈ targets, m.id ∈ x.journal.changes → ∀ e,
    m.source.change (p.share r targets m) = .error e → ⟨m.name, e.message⟩ ∈ x.value.1.failures
  /-- Nothing else is a failure. -/
  failures : x.value.1.failures.Perm (p.shortfalls r targets
    ++ (targets.filter (p.selects r targets)).filterMap fun m =>
        Errand.refusal? ⟨m, p.share r targets m⟩)
  result : x.value.1.result = if x.value.1.failures = [] then .ok x.value.1
    else .error (.partialPropagation r.id x.value.1.failures)

namespace Accounted

variable {x : Journaled (Outcome × Sources)}

theorem applied_eq (h : Accounted p r targets σ x) :
    x.value.1.applied = (targets.filter fun m =>
      p.selects r targets m && m.source.accepts (p.share r targets m)).map Mount.name := by
  have hboth : (fun m => p.selects r targets m && m.source.accepts (p.share r targets m))
      = fun m => m.source.accepts (p.share r targets m) && p.selects r targets m :=
    funext fun m => Bool.and_comm ..
  rw [h.applied, Policy.errands, List.filter_map, List.map_map, List.filter_filter, hboth]
  rfl

theorem mem_asked_iff (h : Accounted p r targets σ x) (hids : (targets.map Mount.id).Nodup)
    {m : Mount} (hm : m ∈ targets) : m.id ∈ x.journal.changes ↔ p.selects r targets m := by
  rw [h.asked, Policy.errands, List.map_map, List.mem_map]
  constructor
  · rintro ⟨n, hn, hid⟩
    obtain ⟨hn, hselects⟩ := List.mem_filter.mp hn
    exact List.inj_on_of_nodup_map hids hn hm hid ▸ hselects
  · intro hselects
    exact ⟨m, List.mem_filter.mpr ⟨hm, hselects⟩, rfl⟩

theorem mem_applied_iff (h : Accounted p r targets σ x)
    (hnames : (targets.map Mount.name).Nodup) {m : Mount} (hm : m ∈ targets) :
    m.name ∈ x.value.1.applied ↔
      p.selects r targets m ∧ m.source.accepts (p.share r targets m) := by
  rw [h.applied_eq, List.mem_map, ← Bool.and_eq_true]
  constructor
  · rintro ⟨n, hn, hname⟩
    obtain ⟨hn, haccepted⟩ := List.mem_filter.mp hn
    exact List.inj_on_of_nodup_map hnames hn hm hname ▸ haccepted
  · intro haccepted
    exact ⟨m, List.mem_filter.mpr ⟨hm, haccepted⟩, rfl⟩

/-- What becomes of a source: it is asked for its part of the request, or left alone. -/
theorem get?_eq (h : Accounted p r targets σ x) (hmounted : Errand.Mounted targets σ)
    (hids : (targets.map Mount.id).Nodup) {m : Mount} (hm : m ∈ targets) :
    x.value.2.get? m.id = some
      (if p.selects r targets m then m.source.after (p.share r targets m) else m.source) := by
  cases hselects : p.selects r targets m with
  | true => exact h.reached _ (List.mem_map_of_mem (List.mem_filter.mpr ⟨hm, hselects⟩))
  | false =>
    rw [if_neg Bool.false_ne_true, ← hmounted m hm]
    apply h.others
    rw [← h.asked, h.mem_asked_iff hids hm, hselects]
    exact Bool.false_ne_true

/-- What is no target is left as it was. -/
theorem get?_of_not_mem (h : Accounted p r targets σ x) {id : SourceId}
    (hid : id ∉ targets.map Mount.id) : x.value.2.get? id = σ.get? id := by
  apply h.others
  rw [Policy.errands, List.map_map]
  exact fun hin => hid ((List.filter_sublist.map _).subset hin)

/-- Where no source has accepted anything, all of them are as they were. -/
theorem sources_eq (h : Accounted p r targets σ x) (hmounted : Errand.Mounted targets σ)
    (happlied : x.value.1.applied = []) : x.value.2 = σ := by
  apply Sources.ext_get?
  intro id
  by_cases hid : id ∈ (p.errands r targets).map (·.mount.id)
  · obtain ⟨e, he, rfl⟩ := List.mem_map.mp hid
    have hrefused : e.mount.source.accepts e.request = false := by
      rw [h.applied, List.map_eq_nil_iff, List.filter_eq_nil_iff] at happlied
      exact Bool.eq_false_iff.mpr (happlied e he)
    obtain ⟨m, hm, rfl⟩ := List.mem_map.mp he
    rw [h.reached _ he, Source.after_of_not_accepts hrefused]
    exact (hmounted m (List.mem_of_mem_filter hm)).symm
  · exact h.others id hid

theorem tellsTruth (h : Accounted p r targets σ x) (hmounted : Errand.Mounted targets σ)
    (hnames : (targets.map Mount.name).Nodup)
    (hfull : ∀ m ∈ targets, m.source.AppliesInFull) : TellsTruth p r targets σ x := by
  have hids := nodup_ids hmounted hnames
  have hasked : x.journal.changes = (targets.filter (p.selects r targets)).map Mount.id := by
    rw [h.asked, Policy.errands, List.map_map]
    rfl
  have hcarried : ∀ m ∈ targets, m.name ∈ x.value.1.applied → ∃ s,
      x.value.2.get? m.id = some s ∧
      (p.share r targets m).CarriedOut m.source.holding? s.holding? := by
    intro m hm happlied
    obtain ⟨hselects, haccepts⟩ := (h.mem_applied_iff hnames hm).mp happlied
    refine ⟨_, h.get?_eq hmounted hids hm, ?_⟩
    rw [if_pos hselects]
    exact Source.carriedOut_after (hfull m hm) haccepts
  have hkept : ∀ m ∈ targets, m.name ∉ x.value.1.applied →
      x.value.2.get? m.id = some m.source := by
    intro m hm happlied
    rw [h.mem_applied_iff hnames hm, not_and] at happlied
    rw [h.get?_eq hmounted hids hm]
    split
    · next hselects =>
      rw [Source.after_of_not_accepts (Bool.eq_false_iff.mpr (happlied hselects))]
    · rfl
  exact {
    asked := hasked
    asked_once := hasked ▸ hids.sublist (List.filter_sublist.map _)
    in_order := h.applied_eq ▸ List.filter_sublist.map _
    mem_applied_iff := by
      intro m hm
      rw [h.mem_applied_iff hnames hm, h.mem_asked_iff hids hm]
    changed := hcarried
    kept := hkept
    others := fun _ => h.get?_of_not_mem
    untouched := by
      intro m hm
      by_cases happlied : m.name ∈ x.value.1.applied
      · obtain ⟨s, hs, hcarriedOut⟩ := hcarried m hm happlied
        exact ⟨s, hs, fun key hkey => hcarriedOut.of_not_touches (touches_share hkey m)⟩
      · exact ⟨m.source, hkept m hm happlied, fun _ _ => rfl⟩
    failed := by
      intro m hm hin e he
      have hselects := (h.mem_asked_iff hids hm).mp hin
      refine h.failures.mem_iff.mpr (List.mem_append_right _ (List.mem_filterMap.mpr ?_))
      refine ⟨⟨m, p.share r targets m⟩, ?_, ?_⟩
      · exact List.mem_map_of_mem (List.mem_filter.mpr ⟨hm, hselects⟩)
      · rw [Errand.refusal?, he]
    failures := by
      have hfailures := h.failures
      rwa [Policy.errands, List.filterMap_map] at hfailures
    result := by
      rw [Outcome.result, Outcome.isComplete, h.requestId]
      cases x.value.1.failures <;> rfl }

end Accounted

/-- However the sources answer, the outcome of a propagation tells the truth about each. -/
theorem tellsTruth_propagate (p : Policy) (r : ChangeRequest)
    (hmounted : ∀ m ∈ targets, σ.get? m.id = some m.source)
    (hnames : (targets.map Mount.name).Nodup)
    (hfull : ∀ m ∈ targets, m.source.AppliesInFull) :
    TellsTruth p r targets σ (p.propagate r targets σ) :=
  (accounted_propagate p r hmounted hnames).tellsTruth hmounted hnames hfull

/-- Three keys held by nobody, by a source that refuses, and by one that accepts. -/
theorem tellsTruth_of_refusal :
    let σ : Sources :=
      ⟨#[.memory { name := "live", entries := .singleton "a" "1" },
         .memory { name := "locked", readOnly := true, entries := .singleton "b" "2" },
         .memory { name := "base" }]⟩
    let targets := σ.mounts [0, 1, 2]
    let stamp : Stamp :=
      ⟨"r", { year := 2024, month := 2, day := 29, hour := 0, minute := 0, second := 0,
              nanosecond := 0, offset := 0 }⟩
    let r := (((ChangeRequest.new stamp).remove "a").put "b" "8").put "c" "7"
    let x := (Policy.firstMatching "base").propagate r targets σ
    TellsTruth (.firstMatching "base") r targets σ x ∧
    x.journal.changes = [0, 1, 2] ∧ x.value.1.applied = ["live", "base"] ∧
    x.value.1.failures = [⟨"locked", "Property source 'locked' rejected the change: source is read-only"⟩] := by
  intro σ targets stamp r x
  refine ⟨tellsTruth_propagate _ r ?_ (by decide) ?_, ?_⟩
  · simp [targets, σ, Sources.mounts, Sources.mount?, Sources.get?]
  · simp [targets, σ, Sources.mounts, Sources.mount?, Sources.get?, Source.appliesInFull_memory]
  · decide +kernel

end LayeredConfig
