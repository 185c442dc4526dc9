import LayeredConfig.Proofs.Propagation.Truth

/-!
# Routing divides a request up

Where each key goes to the source that holds it, the request is cut into parts before any source is
asked. Each key is in one part or is recorded as having nowhere to go, each part says of its keys
what the request says, and each source gets one part or none.
-/
namespace LayeredConfig

variable {r : ChangeRequest} {targets : List Mount} {σ : Sources} {fallback key : String}

/-! ## Keys and where they go -/

/-- The keys of a request that no source holds, where the fallback is not there. -/
def ChangeRequest.strays (r : ChangeRequest) (targets : List Mount) (fallback : String) :
    List String :=
  r.keys.filter fun key => (recipient? targets fallback key).isNone

theorem ChangeRequest.mem_strays :
    key ∈ r.strays targets fallback ↔ key ∈ r.keys ∧ recipient? targets fallback key = none := by
  rw [strays, List.mem_filter, Option.isNone_iff_eq_none]

theorem mem_of_recipient? {m : Mount} (h : recipient? targets fallback key = some m) :
    m ∈ targets := by
  unfold recipient? at h
  cases hholder : targets.find? (·.holds key) with
  | some n =>
    rw [hholder] at h
    cases h
    exact List.mem_of_find?_eq_some hholder
  | none =>
    rw [hholder] at h
    exact List.mem_of_find?_eq_some h

theorem any_recipient?_iff (hnames : (targets.map Mount.name).Nodup) {m : Mount}
    (hm : m ∈ targets) :
    (recipient? targets fallback key).any (·.name == m.name)
      ↔ recipient? targets fallback key = some m := by
  rw [Option.any_eq_true]
  constructor
  · rintro ⟨n, hn, hname⟩
    rw [hn, List.inj_on_of_nodup_map hnames (mem_of_recipient? hn) hm (beq_iff_eq.mp hname)]
  · exact fun h => ⟨m, h, beq_self_eq_true _⟩

namespace ChangeRequest

theorem mem_keys_restrict (p : String → Bool) :
    key ∈ (r.restrict p).keys ↔ key ∈ r.keys ∧ p key := by
  rw [mem_keys_iff, mem_keys_iff, touches, touches, StringMap.contains, StringMap.contains,
    get?_puts_restrict, get?_removes_restrict, StringMap.contains, StringMap.contains]
  cases p key with
  | false => simp
  | true => cases r.puts.get? key <;> simp

/-- A request that is cut down says of its keys what it said of them. -/
theorem said_restrict {p : String → Bool} (h : key ∈ (r.restrict p).keys) :
    (r.restrict p).puts.get? key = r.puts.get? key ∧
    (r.restrict p).removes.contains key = !r.puts.contains key := by
  obtain ⟨hkey, hp⟩ := (mem_keys_restrict p).mp h
  rw [mem_keys_iff, touches, Bool.or_eq_true] at hkey
  rw [get?_puts_restrict, StringMap.contains, get?_removes_restrict, if_pos hp, hp, Bool.true_and]
  refine ⟨rfl, ?_⟩
  cases hput : r.puts.contains key with
  | true => rfl
  | false => exact hkey.resolve_left (ne_true_of_eq_false hput)

theorem isEmpty_eq_false_of_mem_keys (h : key ∈ r.keys) : r.isEmpty = false := by
  cases hempty : r.isEmpty with
  | false => rfl
  | true => simp [keys_of_isEmpty hempty] at h

end ChangeRequest

/-! ## Parts handed over in order -/

namespace Errand

/-- The errands run one after the other. -/
def runAll (es : List Errand) (o : Outcome) (σ : Sources) : Journaled (Outcome × Sources) :=
  es.foldlM (fun x e => applyTo e.mount e.request x.1 x.2) (o, σ)

theorem value_runAll_cons (e : Errand) (es : List Errand) (o : Outcome) (σ : Sources) :
    (runAll (e :: es) o σ).value
      = (runAll es (applyTo e.mount e.request o σ).value.1
          (applyTo e.mount e.request o σ).value.2).value := by
  rw [runAll, List.foldlM_cons, Journaled.value_bind]
  rfl

theorem value_applyParts (r : ChangeRequest) (routed : List (String × Nat))
    (places : List (Mount × Nat)) (o : Outcome) (σ : Sources) :
    (applyParts r routed places o σ).value = (runAll (ofParts r routed places) o σ).value := by
  induction places generalizing o σ with
  | nil => rfl
  | cons place places ih =>
    obtain ⟨m, i⟩ := place
    rw [applyParts, ofParts_cons]
    split
    · exact ih o σ
    · rw [value_runAll_cons, ← ih]
      rfl

end Errand

theorem value_propagate_firstMatching (hnames : (targets.map Mount.name).Nodup) :
    ((Policy.firstMatching fallback).propagate r targets σ).value
      = (Errand.runAll ((Policy.firstMatching fallback).errands r targets)
          { requestId := r.id
            failures := (r.strays targets fallback).map (unroutable fallback) } σ).value := by
  have hstart : (route targets fallback r.keys (.new r.id)).value.2
      = { requestId := r.id
          failures := (r.strays targets fallback).map (unroutable fallback) } := by
    rw [value_route]
    rfl
  rw [← ofParts_route (r := r) hnames fallback (.new r.id), ← hstart]
  exact Errand.value_applyParts ..

/-! ## The division -/

/-- Parts of a request, each for a source, and the keys that are in none of them. -/
structure Partition (r : ChangeRequest) (targets : List Mount) (fallback : String)
    (parts : List Errand) (lost : List String) : Prop where
  in_order : (parts.map (·.mount)).Sublist targets
  identity : ∀ part ∈ parts, part.request.id = r.id ∧ part.request.createdAt = r.createdAt
  nonempty : ∀ part ∈ parts, part.request.isEmpty = false
  /-- A source gets just those keys whose recipient it is. -/
  mem_keys_iff : ∀ part ∈ parts, ∀ key, key ∈ part.request.keys ↔
    key ∈ r.keys ∧ recipient? targets fallback key = some part.mount
  /-- A key that is set has the same text in its part, and any other one is removed there. -/
  intent : ∀ part ∈ parts, ∀ key ∈ part.request.keys,
    part.request.puts.get? key = r.puts.get? key ∧
    part.request.removes.contains key = !r.puts.contains key
  disjoint : parts.Pairwise fun part other => part.request.keys.Disjoint other.request.keys
  mem_lost_iff : ∀ key, key ∈ lost ↔ key ∈ r.keys ∧ recipient? targets fallback key = none
  /-- Each key is in one part, or else lost, and is there once. -/
  whole : (parts.flatMap (·.request.keys) ++ lost).Perm r.keys

section Parts

variable {part : Errand}

theorem mem_errands_firstMatching :
    part ∈ (Policy.firstMatching fallback).errands r targets ↔ part.mount ∈ targets ∧
      part.request = (Policy.firstMatching fallback).share r targets part.mount ∧
      part.request.isEmpty = false := by
  rw [Policy.errands, List.mem_map]
  constructor
  · rintro ⟨m, hm, rfl⟩
    obtain ⟨hm, hselects⟩ := List.mem_filter.mp hm
    exact ⟨hm, rfl, (Bool.not_eq_eq_eq_not ..).mp hselects⟩
  · obtain ⟨m, part⟩ := part
    dsimp only
    rintro ⟨hm, rfl, hnonempty⟩
    exact ⟨m, List.mem_filter.mpr ⟨hm, (Bool.not_eq_eq_eq_not ..).mpr hnonempty⟩, rfl⟩

theorem mem_keys_part (hnames : (targets.map Mount.name).Nodup)
    (hpart : part ∈ (Policy.firstMatching fallback).errands r targets) (key : String) :
    key ∈ part.request.keys ↔
      key ∈ r.keys ∧ recipient? targets fallback key = some part.mount := by
  obtain ⟨hm, hrequest, -⟩ := mem_errands_firstMatching.mp hpart
  rw [hrequest, Policy.share, ChangeRequest.mem_keys_restrict, any_recipient?_iff hnames hm]

/-- The recipient of a key is given a part with that key in it. -/
theorem exists_part (hnames : (targets.map Mount.name).Nodup) {m : Mount} (hkey : key ∈ r.keys)
    (hm : recipient? targets fallback key = some m) :
    ∃ part ∈ (Policy.firstMatching fallback).errands r targets, key ∈ part.request.keys := by
  have hin : key ∈ ((Policy.firstMatching fallback).share r targets m).keys :=
    (ChangeRequest.mem_keys_restrict _).mpr
      ⟨hkey, (any_recipient?_iff hnames (mem_of_recipient? hm)).mpr hm⟩
  refine ⟨⟨m, _⟩, mem_errands_firstMatching.mpr ⟨mem_of_recipient? hm, rfl, ?_⟩, hin⟩
  exact ChangeRequest.isEmpty_eq_false_of_mem_keys hin

end Parts

theorem disjoint_parts (r : ChangeRequest) (fallback : String)
    (hnames : (targets.map Mount.name).Nodup) :
    ((Policy.firstMatching fallback).errands r targets).Pairwise
      fun part other => part.request.keys.Disjoint other.request.keys := by
  have hmounts : ((Policy.firstMatching fallback).errands r targets).Pairwise
      fun part other => part.mount ≠ other.mount :=
    List.pairwise_map.mpr (hnames.of_map.sublist List.filter_sublist)
  refine hmounts.imp_of_mem ?_
  intro part other hpart hother hne key hkey hkey'
  have hrecipient := ((mem_keys_part hnames hpart key).mp hkey).2
  have hrecipient' := ((mem_keys_part hnames hother key).mp hkey').2
  exact hne (Option.some.inj (hrecipient.symm.trans hrecipient'))

/-- No key is lost, and none is there twice. -/
theorem parts_append_strays_perm (hnames : (targets.map Mount.name).Nodup) :
    (((Policy.firstMatching fallback).errands r targets).flatMap (·.request.keys)
      ++ r.strays targets fallback).Perm r.keys := by
  have hparts : (((Policy.firstMatching fallback).errands r targets).flatMap
      (·.request.keys)).Nodup :=
    List.nodup_flatMap.mpr ⟨fun part _ => part.request.nodup_keys, disjoint_parts r fallback hnames⟩
  have honce : (((Policy.firstMatching fallback).errands r targets).flatMap (·.request.keys)
      ++ r.strays targets fallback).Nodup := by
    refine hparts.append (r.nodup_keys.filter _) ?_
    intro key hpart hstray
    obtain ⟨part, hpart, hkey⟩ := List.mem_flatMap.mp hpart
    have hrecipient := ((mem_keys_part hnames hpart key).mp hkey).2
    have hnone := (ChangeRequest.mem_strays.mp hstray).2
    exact Option.some_ne_none _ (hrecipient.symm.trans hnone)
  refine (List.perm_ext_iff_of_nodup honce r.nodup_keys).mpr ?_
  intro key
  rw [List.mem_append, List.mem_flatMap, ChangeRequest.mem_strays]
  constructor
  · rintro (⟨part, hpart, hkey⟩ | ⟨hkey, -⟩)
    · exact ((mem_keys_part hnames hpart key).mp hkey).1
    · exact hkey
  · intro hkey
    cases hrecipient : recipient? targets fallback key with
    | none => exact .inr ⟨hkey, rfl⟩
    | some m => exact .inl (exists_part hnames hkey hrecipient)

theorem partition_firstMatching (r : ChangeRequest) (fallback : String)
    (hnames : (targets.map Mount.name).Nodup) :
    Partition r targets fallback ((Policy.firstMatching fallback).errands r targets)
      (r.strays targets fallback) where
  in_order := by
    rw [Policy.errands, List.map_map]
    exact (List.map_id _).symm ▸ List.filter_sublist
  identity := by
    intro part hpart
    obtain ⟨-, hrequest, -⟩ := mem_errands_firstMatching.mp hpart
    rw [hrequest]
    exact ⟨rfl, rfl⟩
  nonempty := fun part hpart => (mem_errands_firstMatching.mp hpart).2.2
  mem_keys_iff := fun part hpart => mem_keys_part hnames hpart
  intent := by
    intro part hpart key hkey
    obtain ⟨-, hrequest, -⟩ := mem_errands_firstMatching.mp hpart
    rw [hrequest] at hkey ⊢
    exact ChangeRequest.said_restrict hkey
  disjoint := disjoint_parts r fallback hnames
  mem_lost_iff key := ChangeRequest.mem_strays
  whole := parts_append_strays_perm hnames

/-- Where each key goes is settled by what the sources hold beforehand, and the parts that come of
it are then handed over one by one. -/
theorem firstMatching_partitions (r : ChangeRequest) (fallback : String)
    (hmounted : ∀ m ∈ targets, σ.get? m.id = some m.source)
    (hnames : (targets.map Mount.name).Nodup) :
    let x := (Policy.firstMatching fallback).propagate r targets σ
    ∃ parts lost, Partition r targets fallback parts lost ∧
      x.value = (Errand.runAll parts
        { requestId := r.id, failures := lost.map (unroutable fallback) } σ).value ∧
      x.value.1.failures.Perm (lost.map (unroutable fallback) ++ parts.filterMap Errand.refusal?) ∧
      x.journal.changes = parts.map (·.mount.id) ∧ x.journal.changes.Nodup := by
  intro x
  have haccount := accounted_firstMatching (r := r) fallback hmounted hnames
  refine ⟨_, _, partition_firstMatching r fallback hnames, value_propagate_firstMatching hnames,
    haccount.failures, haccount.asked, ?_⟩
  have hids := (nodup_ids hmounted hnames).sublist
    ((partition_firstMatching r fallback hnames).in_order.map Mount.id)
  rw [List.map_map] at hids
  exact haccount.asked ▸ hids

/-- One key goes past a source that fails for it, one goes to that source, which has it without a
text, and one is held by nobody. -/
theorem firstMatching_partitions_of_failing_get :
    let remote : CustomSource :=
      { name := "remote"
        content := .ofList [("a", .text "a" "0" "remote"), ("b", .null "b" "remote")]
        get := fun content key =>
          if key = "a" then .error (.source "remote" "down") else .ok (content.get? key)
        writer := some { change := fun _ content => .ok content
                         replace := fun _ content => .ok content } }
    let σ : Sources :=
      ⟨#[.custom remote, .memory { name := "live", entries := .singleton "a" "1" }]⟩
    let targets := σ.mounts [0, 1]
    let stamp : Stamp :=
      ⟨"r", { year := 2024, month := 2, day := 29, hour := 0, minute := 0, second := 0,
              nanosecond := 0, offset := 0 }⟩
    let r := (((ChangeRequest.new stamp).remove "a").put "b" "2").put "c" "3"
    let x := (Policy.firstMatching "base").propagate r targets σ
    (∃ parts lost, Partition r targets "base" parts lost ∧
      x.journal.changes = parts.map (·.mount.id)) ∧
    ["a", "b", "c"].map (fun key => (recipient? targets "base" key).map Mount.name)
      = [some "live", some "remote", none] ∧
    x.journal.changes = [0, 1] ∧
    x.value.1.failures
      = [⟨"base", "no source holds 'c' and the default source is not registered"⟩] := by
  intro remote σ targets stamp r x
  have hmounted : ∀ m ∈ targets, σ.get? m.id = some m.source := by
    simp [targets, σ, Sources.mounts, Sources.mount?, Sources.get?]
  obtain ⟨parts, lost, hpartition, -, -, hasked, -⟩ :=
    firstMatching_partitions r "base" hmounted (by decide)
  refine ⟨⟨parts, lost, hpartition, hasked⟩, ?_, ?_, ?_⟩ <;> decide +kernel

end LayeredConfig
