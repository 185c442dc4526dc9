import LayeredConfig.Proofs.Editor.Notice
import LayeredConfig.Proofs.Editor.ReadBack
import LayeredConfig.Proofs.View.References

/-!
# Changes that nobody hears of

A store compares the keys of its request, and no other. A key that refers to one of them, directly
or through others, reads differently as well, and neither the global listeners nor those that
watch it hear of that.
-/
namespace LayeredConfig

/-! ## What sources answer for other keys -/

theorem Mount.find_congr {m n : Mount} {key : String} (hid : m.id = n.id) (hname : m.name = n.name)
    (hget : m.source.get key = n.source.get key) : m.find key = n.find key := by
  rw [find, find, get, get, hid, hname, hget]

theorem Policy.find_leaves {p : Policy} {r : ChangeRequest} {targets : List Mount} {m : Mount}
    (h : m.source.Confined) {key : String} (hkey : r.touches key = false) :
    (p.leaves r targets m).find key = m.find key := by
  unfold leaves
  split
  · exact Mount.find_congr rfl (Source.name_after ..) (h.get_after (touches_share hkey m))
  · rfl

theorem Configuration.confined_sources {c : Configuration} {σ : Sources}
    (h : ∀ m ∈ c.registry.mutableMounts σ, m.source.Confined) :
    ∀ m ∈ (c.view σ).sources, m.source.Confined := by
  intro m hm
  obtain ⟨id, hid, hmount⟩ := List.mem_filterMap.mp hm
  obtain ⟨s, hs, rfl⟩ := Option.map_eq_some_iff.mp hmount
  cases hmutable : s.isMutable with
  | true => exact h _ (Registry.mem_mutableMounts.mpr ⟨hid, hs, hmutable⟩)
  | false => exact Source.confined_of_not_isMutable hmutable

variable {L : Type} {e : Editor L} {c : Configuration} {σ : Sources}
  {backups : Option BackupStore} {stamp : Stamp} {outcome : Outcome}

namespace Editor

theorem exists_sources_view (hc : c.Reachable σ)
    (hok : (e.store c σ backups stamp).value.result = .ok outcome) :
    ∃ f : Mount → Mount,
      (c.view (e.store c σ backups stamp).value.sources).sources = (c.view σ).sources.map f ∧
      ∀ m : Mount, m.source.Confined → ∀ key, e.request.touches key = false →
        (f m).find key = m.find key := by
  cases hrequest : e.request.isEmpty with
  | true =>
    refine ⟨id, ?_, fun _ _ _ _ => rfl⟩
    rw [(value_store_of_isEmpty hrequest hok).1, List.map_id]
  | false =>
    obtain ⟨-, -, hsources, -⟩ := value_store_of_not_isEmpty hrequest hok
    refine ⟨e.policy.leaves e.request (c.registry.mutableMounts σ), ?_, ?_⟩
    · rw [hsources, (hc.accounted e.policy e.request).sources_view hc]
    · exact fun _ hconfined _ => Policy.find_leaves hconfined

/-- Of a key that is not in the request, a placeholder sees what it saw. -/
theorem value_lookup_store (hc : c.Reachable σ)
    (hok : (e.store c σ backups stamp).value.result = .ok outcome)
    (hconfined : ∀ m ∈ c.registry.mutableMounts σ, m.source.Confined) {key : String}
    (hkey : e.request.touches key = false) :
    ((c.view (e.store c σ backups stamp).value.sources).lookup .empty key).value
      = ((c.view σ).lookup .empty key).value := by
  obtain ⟨f, hview, hfind⟩ := exists_sources_view hc hok
  have hresolve : ((c.view (e.store c σ backups stamp).value.sources).resolve key).value
      = ((c.view σ).resolve key).value := by
    rw [← View.value_resolve_map fun m hm => congrArg Journaled.value
      (hfind m (Configuration.confined_sources hconfined m hm) key hkey), ← hview]
    rfl
  rw [View.value_lookup, View.value_lookup, hresolve]
  rfl

/-! ## Who hears of a key -/

/-- What is to be told of a key: to everyone who listens to it, once, how it read before and how
it reads after. -/
def due (e : Editor L) (before after : View) (key : String) : List (Delivery L String) :=
  (e.listeners.everywhere ++ e.listeners.watching key).map fun l =>
    ⟨l, ⟨key, before.shown? key, after.shown? key⟩⟩

end Editor

/-- What was told of a key. -/
def Stored.about (stored : Stored L) (key : String) : List (Delivery L String) :=
  stored.deliveries.filter (·.change.key == key)

theorem Listeners.filter_flatMap_deliver (ls : Listeners L) (changes : List (Change String))
    (key : String) :
    (changes.flatMap ls.deliver).filter (·.change.key == key)
      = (changes.filter (·.key == key)).flatMap ls.deliver := by
  induction changes with
  | nil => rfl
  | cons change changes ih =>
    have hsame : (ls.deliver change).filter (·.change.key == key)
        = if change.key == key then ls.deliver change else [] := by
      unfold deliver
      rw [List.filter_map]
      cases hkey : change.key == key <;> simp [Function.comp_def, hkey]
    rw [List.flatMap_cons, List.filter_append, ih, hsame, List.filter_cons]
    cases change.key == key <;> rfl

theorem View.filter_changesTo (v w : View) {keys : List String} (hkeys : keys.Nodup)
    (key : String) :
    (v.changesTo w keys).filter (·.key == key)
      = if key ∈ keys ∧ v.shown? key ≠ w.shown? key then [⟨key, v.shown? key, w.shown? key⟩]
        else [] := by
  have hdiffering : (keys.filter fun key => v.shown? key != w.shown? key).Nodup :=
    hkeys.filter _
  unfold changesTo
  rw [List.filter_map]
  change ((keys.filter fun key => v.shown? key != w.shown? key).filter (· == key)).map _ = _
  rw [List.filter_beq, hdiffering.count]
  simp only [List.mem_filter, bne_iff_ne]
  split <;> rfl

namespace Editor

/-- Of a key of the request that reads differently, all is told that is to be told; of another
key, nothing is. -/
theorem about_store (hc : c.Reachable σ)
    (hok : (e.store c σ backups stamp).value.result = .ok outcome) (key : String) :
    (e.store c σ backups stamp).value.about key
      = if e.request.touches key ∧ (c.view σ).shown? key
            ≠ (c.view (e.store c σ backups stamp).value.sources).shown? key
        then e.due (c.view σ) (c.view (e.store c σ backups stamp).value.sources) key
        else [] := by
  -- A key stands once in the request, so it makes for one change.
  rw [Stored.about, deliveries_eq hc hok, Listeners.filter_flatMap_deliver,
    View.filter_changesTo _ _ e.request.nodup_keys]
  simp only [e.request.mem_keys_iff]
  split
  · exact List.flatMap_singleton ..
  · rfl

/-- A key that is not in the request reads differently only if its reading asks the sources for a
key of the request, of which a placeholder then sees something else. -/
theorem exists_touched_of_getText_ne (hc : c.Reachable σ)
    (hok : (e.store c σ backups stamp).value.result = .ok outcome)
    (hconfined : ∀ m ∈ c.registry.mutableMounts σ, m.source.Confined)
    (hresolvers : ∀ ev, c.evaluator = some ev → ev.ByLookup) {key : String}
    (hne : ((c.view σ).getText key).value
      ≠ ((c.view (e.store c σ backups stamp).value.sources).getText key).value) :
    ∃ id other, .access id (.get other) ∈ ((c.view σ).getText key).journal ∧
      e.request.touches other ∧
      ((c.view σ).lookup .empty other).value
        ≠ ((c.view (e.store c σ backups stamp).value.sources).lookup .empty other).value := by
  -- Without sources nothing is asked, and nothing reads differently either.
  have hsources : (c.view σ).sources ≠ [] := by
    intro hnil
    have hviews : c.view (e.store c σ backups stamp).value.sources = c.view σ := by
      obtain ⟨f, hview, -⟩ := exists_sources_view hc hok
      rw [hnil, List.map_nil] at hview
      unfold Configuration.view at hnil hview ⊢
      dsimp only at hnil hview
      rw [hnil, hview]
    exact hne (by rw [hviews])
  by_contra hnone
  refine hne (View.value_getText_eq rfl hsources hresolvers fun id other haccess => ?_)
  by_contra hdiffers
  cases htouches : e.request.touches other with
  | true => exact hnone ⟨id, other, haccess, htouches, hdiffers⟩
  | false => exact hdiffers (value_lookup_store hc hok hconfined htouches).symm

/-- Of a key that reads differently after a store, its listeners are told as they should be if
and only if the request has that key, with a text to tell of, or nobody listens. A key that the
request does not have is passed over. It has been led to one that the request has: its reading
asked a source for a key of which a placeholder now sees something else, as long as a change shows
in the sources under its own keys and resolvers get at texts by looking them up. -/
theorem about_eq_due_iff (hc : c.Reachable σ)
    (hok : (e.store c σ backups stamp).value.result = .ok outcome) :
    let stored := (e.store c σ backups stamp).value
    let before := c.view σ
    let after := c.view stored.sources
    ∀ key, (before.getText key).value ≠ (after.getText key).value →
      (stored.about key = e.due before after key ↔
        (e.request.touches key ∧ before.shown? key ≠ after.shown? key) ∨
          e.listeners.audience key = []) ∧
      (e.request.touches key = false → stored.about key = [] ∧
        ((∀ m ∈ c.registry.mutableMounts σ, m.source.Confined) →
          (∀ ev, c.evaluator = some ev → ev.ByLookup) →
          ∃ id other, .access id (.get other) ∈ (before.getText key).journal ∧
            e.request.touches other ∧
            (before.lookup .empty other).value ≠ (after.lookup .empty other).value)) := by
  intro stored before after key hne
  have habout := about_store hc hok key
  refine ⟨?_, fun hkey => ⟨?_, fun hconfined hresolvers => ?_⟩⟩
  · rw [habout]
    split
    · next htold => exact iff_of_true rfl (.inl htold)
    · next htold =>
      rw [eq_comm, due, List.map_eq_nil_iff]
      exact ⟨.inr, fun h => h.resolve_left htold⟩
  · rw [habout, if_neg fun htold => ne_true_of_eq_false hkey htold.1]
  · exact exists_touched_of_getText_ne hc hok hconfined hresolvers hne

/-- A key of the request is heard of, and one that refers to it is not. -/
theorem about_eq_due_of_requested :
    let time : Timestamp :=
      { year := 2024, month := 2, day := 29, hour := 0, minute := 0, second := 0,
        nanosecond := 0, offset := 0 }
    let σ : Sources :=
      ⟨#[.memory { name := "app", entries := .ofList [("a", "1"), ("b", "${a}")] }]⟩
    let c : Configuration :=
      { registry := (Registry.empty.withSources (σ.mounts [0])).value
        evaluator := some ⟨[.configuration], .mask, 10⟩ }
    let e := (((Editor.new .all ⟨"r", time⟩).onChange 0).watch "b" 1).put "a" "2"
    let stored := (e.store c σ none ⟨"s", time⟩).value
    stored.about "a" = e.due (c.view σ) (c.view stored.sources) "a" ∧
    stored.about "b" = [] ∧
    ∃ id other, .access id (.get other) ∈ ((c.view σ).getText "b").journal ∧
      e.request.touches other ∧
      ((c.view σ).lookup .empty other).value
        ≠ ((c.view stored.sources).lookup .empty other).value := by
  intro time σ c e stored
  have hc : c.Reachable σ := by
    refine .build (b :=
      { sources := σ.mounts [0], expressions := some { resolvers := [.configuration] } }) ?_ rfl
    simp [σ, Sources.mounts, Sources.mount?, Sources.get?, Sources.Keeps, Mount.name]
  obtain ⟨outcome, hok⟩ : ∃ outcome, stored.result = .ok outcome :=
    Editor.exists_result_ok rfl none
  have hconfined : ∀ m ∈ c.registry.mutableMounts σ, m.source.Confined := by
    intro m hm
    obtain ⟨-, hs, -⟩ := Registry.mem_mutableMounts.mp hm
    have hin : m.source ∈ σ.cells := Array.mem_of_getElem? hs
    rw [List.mem_singleton.mp (Array.mem_toList_iff.mpr hin)]
    exact Source.confined_memory _
  have hresolvers : ∀ ev, c.evaluator = some ev → ev.ByLookup := by
    intro ev hev
    cases hev
    simpa [Evaluator.ByLookup] using Resolver.byLookup_configuration
  have ha := about_eq_due_iff hc hok "a" (by decide +kernel)
  have hb := about_eq_due_iff hc hok "b" (by decide +kernel)
  refine ⟨ha.1.mpr (.inl (by decide +kernel)), (hb.2 rfl).1, (hb.2 rfl).2 hconfined hresolvers⟩

/-- A key that refers to one that is stored goes from one text to another, and of its two
listeners neither hears of it. -/
theorem referring_key_unheard :
    let time : Timestamp :=
      { year := 2024, month := 2, day := 29, hour := 0, minute := 0, second := 0,
        nanosecond := 0, offset := 0 }
    let σ : Sources :=
      ⟨#[.memory { name := "app", entries := .ofList [("a", "1"), ("b", "${a}")] }]⟩
    let c : Configuration :=
      { registry := (Registry.empty.withSources (σ.mounts [0])).value
        evaluator := some ⟨[.configuration], .mask, 10⟩ }
    let e := (((Editor.new .all ⟨"r", time⟩).onChange 0).watch "b" 1).put "a" "2"
    let stored := (e.store c σ none ⟨"s", time⟩).value
    stored.result = .ok { requestId := "r", applied := ["app"] } ∧
    e.request.touches "b" = false ∧
    ((c.view σ).getText "b").value = .ok (some "1") ∧
    ((c.view stored.sources).getText "b").value = .ok (some "2") ∧
    e.listeners.audience "b" = [0, 1] ∧
    (stored.deliveries.map fun d => (d.listener, d.change)) = [(0, ⟨"a", some "1", some "2"⟩)] := by
  decide +kernel

end Editor

end LayeredConfig
