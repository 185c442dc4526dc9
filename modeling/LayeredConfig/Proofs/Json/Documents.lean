import LayeredConfig.Property.Json
import LayeredConfig.Proofs.Json.Records
import LayeredConfig.Proofs.Timestamp.ReadBack
import LayeredConfig.Request.Json

/-!
# Properties and change requests as documents

Every property and every change request is read from what is written of it. A field that may be
left out is read as an empty one where it is left out, whatever else stands in the document.
-/
namespace LayeredConfig

namespace Json

/-! ## Fields that are left out -/

/-- The second document has a value for the field that the first one leaves out, and is otherwise
the same. In an array, a field is left out together with all that come after it. -/
inductive Supplies (names : List String) (name : String) (value : Json) : Json → Json → Prop where
  | field {before after : List (String × Json)} :
      (∀ f ∈ before ++ after, f.1 ≠ name) →
      Supplies names name value (.obj (before ++ after)) (.obj (before ++ (name, value) :: after))
  | item {items : List Json} :
      names[items.length]? = some name →
      Supplies names name value (.arr items) (.arr (items ++ [value]))

section LeftOut

variable {α : Type} {name : String} {value : Json}

/-- The fields are got alike but for one, which is left out in the first place and has a value in the
second. A reader that makes the same of both, whatever the other fields hold, makes the same. -/
theorem bind_mapM_eq {front back : List String} {get get' : String → Option (Option Json)}
    {read : List (Option Json) → Option α} (hnodup : (front ++ name :: back).Nodup)
    (hother : ∀ other, other ≠ name → get' other = get other) (hout : get name = some none)
    (hin : get' name = some (some value))
    (hread : ∀ xs ys, xs.length = front.length →
      read (xs ++ none :: ys) = read (xs ++ some value :: ys)) :
    ((front ++ name :: back).mapM get).bind read
      = ((front ++ name :: back).mapM get').bind read := by
  -- Over the fields in front; what is got of them goes into the reader.
  induction front generalizing read with
  | nil =>
    have hname := (List.nodup_cons.mp hnodup).1
    have hback : back.mapM get' = back.mapM get :=
      mapM_congr fun other hmem => hother other fun heq => hname (heq ▸ hmem)
    simp only [List.nil_append, List.mapM_cons, hout, hin, hback, Option.bind_eq_bind,
      Option.bind_some, Option.bind_assoc]
    exact congrArg _ (funext fun ys => hread [] ys rfl)
  | cons first front ih =>
    obtain ⟨hfirst, hrest⟩ := List.nodup_cons.mp hnodup
    have hne : first ≠ name := fun heq => hfirst (heq ▸ by simp)
    simp only [List.cons_append, List.mapM_cons, hother first hne, Option.bind_eq_bind,
      Option.bind_assoc]
    refine congrArg _ (funext fun x => ?_)
    exact ih hrest fun xs ys hxs => hread (x :: xs) ys (congrArg (· + 1) hxs)

/-- It makes no difference whether a field is left out or has a value that its reader takes for
that. -/
theorem Supplies.bind_record? (front back : List String) {j j' : Json}
    {read : List (Option Json) → Option α} (h : Supplies (front ++ name :: back) name value j j')
    (hnodup : (front ++ name :: back).Nodup)
    (hread : ∀ xs ys, xs.length = front.length →
      read (xs ++ none :: ys) = read (xs ++ some value :: ys)) :
    (j.record? (front ++ name :: back)).bind read
      = (j'.record? (front ++ name :: back)).bind read := by
  cases h with
  | @field before after hfields =>
    obtain ⟨hbefore, hafter⟩ := List.forall_mem_append.mp hfields
    have hnone : ∀ fields : List (String × Json), (∀ f ∈ fields, f.1 ≠ name) →
        fields.filter (·.1 == name) = [] :=
      fun fields h => List.filter_eq_nil_iff.mpr fun f hf => by simp [h f hf]
    apply bind_mapM_eq hnodup _ _ _ hread
    · intro other hne
      simp [List.filter_append, Ne.symm hne]
    · rw [hnone _ hfields]
    · simp [List.filter_append, hnone before hbefore, hnone after hafter]
  | @item items hitem =>
    -- No other field has this name, so the array breaks off right in front of it.
    have hlength : items.length = front.length := by
      have hlt := (List.getElem?_eq_some_iff.mp hitem).1
      apply (List.getElem?_inj hlt hnodup).mp
      simp [hitem]
    have hrecord (items : List Json) (hlength : items.length ≤ (front ++ name :: back).length) :
        record? (front ++ name :: back) (.arr items) = some (items.map some ++
          List.replicate ((front ++ name :: back).length - items.length) none) :=
      if_pos hlength
    have hleft : (front ++ name :: back).length - items.length = back.length + 1 := by
      simp [hlength]
    have hfilled : (front ++ name :: back).length - (items ++ [value]).length = back.length := by
      simp only [List.length_append, List.length_cons, List.length_nil]
      omega
    rw [hrecord _ (by simp [hlength]), hrecord _ (by simp [hlength]), hleft, hfilled,
      List.map_append, List.append_assoc]
    exact hread _ _ (by simp [hlength])

end LeftOut

end Json

/-! ## Properties -/

namespace Property

theorem plain_toJson (p : Property) : p.toJson.Plain := by
  refine .obj fun f hf => ?_
  simp only [List.mem_append, List.mem_cons, List.not_mem_nil, or_false] at hf
  rcases hf with (rfl | rfl | rfl) | hf
  · exact .scalar (.str p.key)
  · cases p.value with
    | none => exact .scalar .null
    | some text => exact .scalar (.str text)
  · exact .scalar (.str p.source)
  · split at hf
    · cases hf
    · rw [List.mem_singleton.mp hf]
      exact Json.plain_ofTextMap p.metadata

theorem ofJson?_toJson (p : Property) : ofJson? p.toJson = some p := by
  have hvalue : (Json.ofOption .str p.value).nullable? Json.text? = some p.value := by
    cases p.value <;> rfl
  obtain ⟨metadata, hrecord, hmetadata⟩ : ∃ metadata : Option Json,
      p.toJson.record? ["key", "value", "source", "metadata"]
        = some [some (.str p.key), some (.ofOption .str p.value), some (.str p.source), metadata] ∧
      (metadata.getD (.obj [])).textMap? = some p.metadata := by
    unfold toJson
    cases hempty : p.metadata.isEmpty with
    | true =>
      -- The field is not written then, and the map of no entries is read in its stead.
      refine ⟨none, rfl, ?_⟩
      have hmap := Json.textMap?_ofTextMap p.metadata
      rwa [Json.ofTextMap, Json.ofMap, List.isEmpty_iff.mp hempty] at hmap
    | false => exact ⟨some (.ofTextMap p.metadata), rfl, Json.textMap?_ofTextMap p.metadata⟩
  unfold ofJson?
  simp only [hrecord, Option.bind_eq_bind, Option.bind_some, Option.getD_some, hvalue, hmetadata]
  rfl

theorem ofText?_toText (p : Property) : ofText? p.toText = some p := by
  rw [ofText?, toText, Json.parse?_compact p.plain_toJson, Option.bind_eq_bind, Option.bind_some,
    ofJson?_toJson]

theorem ofJson?_eq_of_supplies {j j' : Json}
    (h : Json.Supplies ["key", "value", "source", "metadata"] "metadata" (.obj []) j j') :
    ofJson? j = ofJson? j' := by
  refine Json.Supplies.bind_record? ["key", "value", "source"] [] h (by decide) ?_
  intro xs ys hxs
  obtain ⟨key, value, source, rfl⟩ := List.length_eq_three.mp hxs
  cases ys <;> rfl

end Property

/-! ## Change requests -/

namespace ChangeRequest

theorem plain_toJson (r : ChangeRequest) : r.toJson.Plain := by
  refine .obj fun f hf => ?_
  simp only [List.mem_cons, List.not_mem_nil, or_false] at hf
  rcases hf with rfl | rfl | rfl | rfl
  · exact .scalar (.str r.id)
  · exact .scalar (.str r.createdAt.toString)
  · exact Json.plain_ofTextMap r.puts
  · exact Json.plain_ofTexts r.removes.keys

theorem ofJson?_toJson (r : ChangeRequest) : ofJson? r.toJson = some r := by
  have hrecord : r.toJson.record? ["id", "created_at", "puts", "removes"]
      = some [some (.str r.id), some (.str r.createdAt.toString), some (.ofTextMap r.puts),
          some (.ofTexts r.removes.keys)] := rfl
  unfold ofJson?
  simp only [hrecord, Option.bind_eq_bind, Option.bind_some, Option.getD_some,
    Timestamp.ofJson?_str, Json.textMap?_ofTextMap, Json.textSet?_ofTexts]
  rfl

theorem ofText?_toText (r : ChangeRequest) : ofText? r.toText = some r := by
  rw [ofText?, toText, Json.parse?_compact r.plain_toJson, Option.bind_eq_bind, Option.bind_some,
    ofJson?_toJson]

section LeftOut

variable {j j' : Json}

theorem ofJson?_eq_of_supplies_puts
    (h : Json.Supplies ["id", "created_at", "puts", "removes"] "puts" (.obj []) j j') :
    ofJson? j = ofJson? j' := by
  refine Json.Supplies.bind_record? ["id", "created_at"] ["removes"] h (by decide) ?_
  intro xs ys hxs
  obtain ⟨id, createdAt, rfl⟩ := List.length_eq_two.mp hxs
  rcases ys with _ | ⟨removes, _ | _⟩ <;> rfl

theorem ofJson?_eq_of_supplies_removes
    (h : Json.Supplies ["id", "created_at", "puts", "removes"] "removes" (.arr []) j j') :
    ofJson? j = ofJson? j' := by
  refine Json.Supplies.bind_record? ["id", "created_at", "puts"] [] h (by decide) ?_
  intro xs ys hxs
  obtain ⟨id, createdAt, puts, rfl⟩ := List.length_eq_three.mp hxs
  cases ys <;> rfl

end LeftOut

end ChangeRequest

/-- Every property and every change request is read back from its text. A text whose optional field
is left out is read as one where that field is empty: the metadata of a property, and the settings
and the removals of a request. -/
theorem documents_read_back :
    (∀ p : Property, Property.ofText? p.toText = some p) ∧
    (∀ r : ChangeRequest, ChangeRequest.ofText? r.toText = some r) ∧
    ∀ (s s' : String) (j j' : Json), Json.parse? s = some j → Json.parse? s' = some j' →
      (Json.Supplies ["key", "value", "source", "metadata"] "metadata" (.obj []) j j' →
        Property.ofText? s = Property.ofText? s') ∧
      (Json.Supplies ["id", "created_at", "puts", "removes"] "puts" (.obj []) j j' →
        ChangeRequest.ofText? s = ChangeRequest.ofText? s') ∧
      (Json.Supplies ["id", "created_at", "puts", "removes"] "removes" (.arr []) j j' →
        ChangeRequest.ofText? s = ChangeRequest.ofText? s') := by
  refine ⟨Property.ofText?_toText, ChangeRequest.ofText?_toText, fun s s' j j' hs hs' => ?_⟩
  simp only [Property.ofText?, ChangeRequest.ofText?, hs, hs', Option.bind_eq_bind,
    Option.bind_some]
  exact ⟨Property.ofJson?_eq_of_supplies, ChangeRequest.ofJson?_eq_of_supplies_puts,
    ChangeRequest.ofJson?_eq_of_supplies_removes⟩

/-- Metadata that are empty are read as what is written of a property without any. A request in an
array is read without its removals, and without its settings too. -/
theorem documents_read_back_of_left_out :
    let p : Property := .null "a" "s"
    let r : ChangeRequest := .new
      { id := "1"
        time := { year := 2024, month := 2, day := 29, hour := 12, minute := 0, second := 0
                  nanosecond := 500000000, offset := 60 } }
    Property.ofText? "\x7b\"key\":\"a\",\"metadata\":\x7b\x7d,\"value\":null,\"source\":\"s\"\x7d"
      = some p ∧
    ChangeRequest.ofText? "[\"1\",\"2024-02-29T12:00:00.5+01:00\",\x7b\x7d]" = some r ∧
    ChangeRequest.ofText? "[\"1\",\"2024-02-29T12:00:00.5+01:00\"]" = some r := by
  intro p r
  obtain ⟨hwritten, -, hleft⟩ := documents_read_back
  have hparse {s : String} {j : Json} (hj : j.Plain) (hs : s = j.compact) :
      Json.parse? s = some j := by
    rw [hs, Json.parse?_compact hj]
  have hbare : Json.parse? p.toText
      = some (.obj ([("key", .str "a")] ++ [("value", .null), ("source", .str "s")])) :=
    Json.parse?_compact p.plain_toJson
  have hdescribed :
      Json.parse? "\x7b\"key\":\"a\",\"metadata\":\x7b\x7d,\"value\":null,\"source\":\"s\"\x7d"
        = some (.obj ([("key", .str "a")] ++
          ("metadata", .obj []) :: [("value", .null), ("source", .str "s")])) := by
    refine hparse (.obj ?_) (by decide +kernel)
    simpa using ⟨.scalar (.str _), .obj nofun, .scalar .null, .scalar (.str _)⟩
  let items : List Json := [.str "1", .str "2024-02-29T12:00:00.5+01:00"]
  have hplain : ∀ v ∈ items ++ [.obj []] ++ [.arr []], v.Plain := by
    simpa [items] using ⟨.scalar (.str _), .scalar (.str _), .obj nofun, .arr nofun⟩
  have hshort : Json.parse? "[\"1\",\"2024-02-29T12:00:00.5+01:00\"]" = some (.arr items) :=
    hparse (.arr fun v hv => hplain v (by simp [hv])) (by decide +kernel)
  have hputs : Json.parse? "[\"1\",\"2024-02-29T12:00:00.5+01:00\",\x7b\x7d]"
      = some (.arr (items ++ [.obj []])) :=
    hparse (.arr fun v hv => hplain v (List.mem_append_left _ hv)) (by decide +kernel)
  have hfull : Json.parse? "[\"1\",\"2024-02-29T12:00:00.5+01:00\",\x7b\x7d,[]]"
      = some (.arr (items ++ [.obj []] ++ [.arr []])) :=
    hparse (.arr hplain) (by decide +kernel)
  have hrequest :
      ChangeRequest.ofText? "[\"1\",\"2024-02-29T12:00:00.5+01:00\",\x7b\x7d]" = some r := by
    rw [(hleft _ _ _ _ hputs hfull).2.2 (.item rfl)]
    decide +kernel
  refine ⟨?_, hrequest, ?_⟩
  · rw [← (hleft _ _ _ _ hbare hdescribed).1 (.field (by decide))]
    exact hwritten p
  · rw [(hleft _ _ _ _ hshort hputs).2.1 (.item rfl)]
    exact hrequest

end LayeredConfig
