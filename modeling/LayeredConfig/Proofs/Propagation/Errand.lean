import LayeredConfig.Proofs.Source.Content
import LayeredConfig.Propagation

/-!
# Errands

An errand is a request on its way to a source. Every policy does its work by errands to
different sources, one after the other, and records each of them alike. What a row of
errands comes to is said once, and is put together from the rows it is made of.
-/
namespace LayeredConfig

/-! ## Who is asked -/

/-- The sources that were asked to carry a request out, once per asking. -/
def Journal.changes (j : Journal) : List SourceId :=
  j.filterMap fun
    | .access source (.change _) => some source
    | _ => none

namespace Journal

@[simp] theorem changes_nil : changes [] = [] := rfl

@[simp] theorem changes_append (j k : Journal) : changes (j ++ k) = changes j ++ changes k :=
  List.filterMap_append

@[simp] theorem changes_log (level : Level) (text : String) (j : Journal) :
    changes (.log level text :: j) = changes j := rfl

@[simp] theorem changes_get (id : SourceId) (key : String) (j : Journal) :
    changes (.access id (.get key) :: j) = changes j := rfl

@[simp] theorem changes_change (id : SourceId) (request : String) (j : Journal) :
    changes (.access id (.change request) :: j) = id :: changes j := rfl

end Journal

theorem Sources.changes_change {σ : Sources} {id : SourceId} {s : Source} (h : σ.get? id = some s)
    (r : ChangeRequest) : (σ.change id r).journal.changes = [id] := by
  rw [change, h]
  dsimp only
  rw [Journaled.journal_bind, Journal.changes_append]
  simp only [Journaled.accessing]
  cases s.change r with
  | error e => rfl
  | ok s' => cases s <;> rfl

/-! ## Errands and what comes of them -/

structure Errand where
  mount : Mount
  request : ChangeRequest

namespace Errand

def isAccepted (e : Errand) : Bool :=
  e.mount.source.accepts e.request

/-- The failure that is recorded for a source that does not accept. -/
def refusal? (e : Errand) : Option Failure :=
  match e.mount.source.change e.request with
  | .ok _ => none
  | .error error => some ⟨e.mount.name, error.message⟩

/-- An outcome to which a row of errands has been added. -/
def report (o : Outcome) (es : List Errand) : Outcome :=
  { o with
    applied := o.applied ++ (es.filter isAccepted).map (·.mount.name)
    failures := o.failures ++ es.filterMap refusal? }

theorem report_nil (o : Outcome) : report o [] = o := by
  simp [report]

theorem report_append (o : Outcome) (es es' : List Errand) :
    report o (es ++ es') = report (report o es) es' := by
  simp [report]

/-- A computation runs a row of errands, and turns to no other source. -/
structure Done (es : List Errand) (o : Outcome) (σ : Sources)
    (x : Journaled (Outcome × Sources)) : Prop where
  outcome : x.value.1 = report o es
  asked : x.journal.changes = es.map (·.mount.id)
  reached : ∀ e ∈ es, x.value.2.get? e.mount.id = some (e.mount.source.after e.request)
  others : ∀ id, id ∉ es.map (·.mount.id) → x.value.2.get? id = σ.get? id

variable {es es' : List Errand} {o : Outcome} {σ : Sources} {x y : Journaled (Outcome × Sources)}

theorem Done.nil (o : Outcome) (σ : Sources) : Done [] o σ (pure (o, σ)) where
  outcome := (report_nil o).symm
  asked := rfl
  reached := nofun
  others _ _ := rfl

/-- What is logged or read besides makes no difference. -/
theorem Done.congr (h : Done es o σ x) (hvalue : y.value = x.value)
    (hjournal : y.journal.changes = x.journal.changes) : Done es o σ y where
  outcome := hvalue ▸ h.outcome
  asked := hjournal.trans h.asked
  reached := hvalue ▸ h.reached
  others := hvalue ▸ h.others

theorem Done.bind {f : Outcome × Sources → Journaled (Outcome × Sources)} (hx : Done es o σ x)
    (hf : Done es' x.value.1 x.value.2 (f x.value))
    (hapart : ∀ e ∈ es, e.mount.id ∉ es'.map (·.mount.id)) : Done (es ++ es') o σ (x >>= f) where
  outcome := by
    rw [Journaled.value_bind, hf.outcome, hx.outcome, report_append]
  asked := by
    rw [Journaled.journal_bind, Journal.changes_append, hx.asked, hf.asked, List.map_append]
  reached := by
    intro e he
    rw [Journaled.value_bind]
    rcases List.mem_append.mp he with he | he
    · rw [hf.others _ (hapart e he), hx.reached e he]
    · exact hf.reached e he
  others := by
    intro id hid
    rw [List.map_append, List.mem_append, not_or] at hid
    rw [Journaled.value_bind, hf.others id hid.2, hx.others id hid.1]

/-! ## Single errands and rows of them -/

/-- The sources are where their mounts say, and what they are there. -/
def Mounted (ms : List Mount) (σ : Sources) : Prop :=
  ∀ m ∈ ms, σ.get? m.id = some m.source

theorem done_applyTo {m : Mount} (h : σ.get? m.id = some m.source) (r : ChangeRequest)
    (o : Outcome) : Done [⟨m, r⟩] o σ (applyTo m r o σ) := by
  have hvalue := Sources.value_change h r
  have hjournal := Sources.changes_change h r
  unfold applyTo
  revert hvalue hjournal
  obtain ⟨⟨answer, τ⟩, journal⟩ := σ.change m.id r
  intro hvalue hjournal
  cases hchange : m.source.change r with
  | error error =>
    simp only [hchange] at hvalue
    cases hvalue
    refine ⟨?_, ?_, ?_, ?_⟩
    · simp [report, isAccepted, refusal?, Source.accepts, hchange, Except.toOption,
        Outcome.recordFailure]
    · simpa [Outcome.recordFailure, Journaled.warn] using hjournal
    · simpa [Source.after, hchange, Except.toOption] using h
    · intro id _
      rfl
  | ok s' =>
    simp only [hchange] at hvalue
    cases hvalue
    refine ⟨?_, ?_, ?_, ?_⟩
    · simp [report, isAccepted, refusal?, Source.accepts, hchange, Except.toOption,
        Outcome.recordSuccess]
    · simpa using hjournal
    · simpa [Source.after, hchange, Except.toOption] using Sources.get?_set_self h s'
    · intro id hid
      exact Sources.get?_set_of_ne (by simpa using hid) s'

/-- One errand, and then a row of them to other sources. -/
theorem Done.cons {m : Mount} {r : ChangeRequest} {ms : List Mount}
    {f : Outcome × Sources → Journaled (Outcome × Sources)} (hmounted : Mounted (m :: ms) σ)
    (hids : ((m :: ms).map Mount.id).Nodup) (hes : ∀ e ∈ es, e.mount ∈ ms)
    (hf : ∀ o τ, Mounted ms τ → Done es o τ (f (o, τ))) :
    Done (⟨m, r⟩ :: es) o σ (applyTo m r o σ >>= f) := by
  have hhead := done_applyTo (hmounted m List.mem_cons_self) r o
  obtain ⟨hm, _⟩ := List.nodup_cons.mp hids
  have hrest : Mounted ms (applyTo m r o σ).value.2 := by
    intro n hn
    have hne : n.id ≠ m.id := fun heq => hm (heq ▸ List.mem_map_of_mem hn)
    rw [hhead.others n.id (by simpa using hne)]
    exact hmounted n (List.mem_cons_of_mem m hn)
  refine hhead.bind (hf _ _ hrest) ?_
  intro e he hin
  obtain rfl := List.mem_singleton.mp he
  obtain ⟨e', he', hid⟩ := List.mem_map.mp hin
  exact hm (hid ▸ List.mem_map_of_mem (hes e' he'))

theorem done_applyToAll (r : ChangeRequest) {ms : List Mount} (hmounted : Mounted ms σ)
    (hids : (ms.map Mount.id).Nodup) (o : Outcome) :
    Done (ms.map (⟨·, r⟩)) o σ (applyToAll r ms o σ) := by
  induction ms generalizing o σ with
  | nil => exact Done.nil o σ
  | cons m ms ih =>
    refine Done.cons hmounted hids ?_ fun o τ hτ => ih hτ (List.nodup_cons.mp hids).2 o
    intro e he
    obtain ⟨n, hn, rfl⟩ := List.mem_map.mp he
    exact hn

/-- The errands of a request that is handed out in parts; a source that gets no key of it is
left out. -/
def ofParts (r : ChangeRequest) (routed : List (String × Nat)) (places : List (Mount × Nat)) :
    List Errand :=
  (places.map fun (m, i) => ⟨m, r.part routed i⟩).filter (!·.request.isEmpty)

theorem ofParts_cons (r : ChangeRequest) (routed : List (String × Nat)) (m : Mount) (i : Nat)
    (places : List (Mount × Nat)) :
    ofParts r routed ((m, i) :: places)
      = if (r.part routed i).isEmpty then ofParts r routed places
        else ⟨m, r.part routed i⟩ :: ofParts r routed places := by
  unfold ofParts
  rw [List.map_cons, List.filter_cons]
  cases (r.part routed i).isEmpty <;> rfl

theorem mount_mem_of_mem_ofParts {r : ChangeRequest} {routed : List (String × Nat)}
    {places : List (Mount × Nat)} {e : Errand} (h : e ∈ ofParts r routed places) :
    e.mount ∈ places.map (·.1) := by
  obtain ⟨place, hplace, rfl⟩ := List.mem_map.mp (List.mem_filter.mp h).1
  exact List.mem_map_of_mem hplace

theorem done_applyParts (r : ChangeRequest) (routed : List (String × Nat))
    {places : List (Mount × Nat)} (hmounted : Mounted (places.map (·.1)) σ)
    (hids : ((places.map (·.1)).map Mount.id).Nodup) (o : Outcome) :
    Done (ofParts r routed places) o σ (applyParts r routed places o σ) := by
  induction places generalizing o σ with
  | nil => exact Done.nil o σ
  | cons place places ih =>
    obtain ⟨m, i⟩ := place
    obtain ⟨hm, htail⟩ := List.nodup_cons.mp hids
    rw [applyParts, ofParts_cons]
    by_cases hempty : (r.part routed i).isEmpty = true
    · simp only [hempty, if_true]
      exact ih (fun n hn => hmounted n (List.mem_cons_of_mem m hn)) htail o
    · simp only [hempty, if_false, Bool.false_eq_true]
      have hparts : Done _ o σ (applyTo m (r.part routed i) o σ >>= fun p =>
          applyParts r routed places p.1 p.2) :=
        Done.cons hmounted hids (fun e he => mount_mem_of_mem_ofParts he)
          fun o τ hτ => ih hτ htail o
      exact hparts.congr rfl rfl

end Errand

end LayeredConfig
