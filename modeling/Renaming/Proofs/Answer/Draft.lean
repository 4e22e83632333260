import Renaming.Analysis
import Renaming.Proofs.Json.Float
import Renaming.Proofs.Json.Record
import Renaming.Proofs.Model.Kind
import Renaming.Proofs.Text.Blank

/-!
# Drafts of analyses

The analysis in an answer comes from the first reading that gives a draft. Every suggestion of the
draft is kept, mended, or dropped with a warning, in order (`Settled`), and an answer without a
draft gives an empty analysis and one warning (`analysis_of_answer`).
-/

namespace Renaming

open Json

/-! ## Readings -/

namespace Answer

open Text

/-- The texts that are read one after another, from strict to forgiving. -/
def stages (answer : String) : List (List Char) :=
  let whole := trimBoth answer.toList
  let inside := unfenced whole
  [whole, inside] ++ (findObject inside).toList ++ (findObject whole).toList

theorem extract_eq_findSome? {α : Type} (value? : Json → Option α) (answer : String) :
    extract value? answer =
      match (stages answer).findSome? fun cs => (parse cs).bind value? with
      | some value => .ok value
      | none => .error ⟨String.ofList ((trimBoth answer.toList).take 200)⟩ := by
  let reading := fun cs => (parse cs).bind value?
  have hoption (o : Option (List Char)) : o.toList.findSome? reading = o.bind reading := by
    cases o <;> simp
  have hstages : (stages answer).findSome? reading =
      (reading (trimBoth answer.toList) <|> reading (unfenced (trimBoth answer.toList)) <|>
        (findObject (unfenced (trimBoth answer.toList))).bind reading <|>
        (findObject (trimBoth answer.toList)).bind reading) := by
    rw [stages, List.append_assoc, List.findSome?_append, List.findSome?_append, hoption, hoption]
    cases h : reading (trimBoth answer.toList) <;> simp [h]
  change _ = match (stages answer).findSome? reading with | some v => _ | none => _
  rw [hstages]
  rfl

end Answer

/-! ## Confidences -/

/-- The nearest number from zero to one. -/
structure Clamped (x y : Float) : Prop where
  below : x < 0 → y = 0
  above : x > 1 → y = 1
  within : ¬x < 0 → ¬x > 1 → y = x

theorem clampUnit_of_number {x : Float} (hx : x.isNaN = false) :
    clampUnit x = if x < 0 then 0 else if x > 1 then 1 else x := by
  unfold clampUnit
  rw [if_neg (by rw [hx]; exact Bool.false_ne_true)]

theorem clamped_clampUnit {x : Float} (hx : x.isNaN = false) : Clamped x (clampUnit x) where
  below h := by rw [clampUnit_of_number hx, if_pos h]
  above h := by rw [clampUnit_of_number hx, if_neg (not_lt_zero_of_one_lt h), if_pos h]
  within h0 h1 := by rw [clampUnit_of_number hx, if_neg h0, if_neg h1]

theorem clampUnit_bounds (x : Float) : 0 ≤ clampUnit x ∧ clampUnit x ≤ 1 := by
  have hzero : (0 : Float).isNaN = false ∧ (0 : Float) ≤ 0 ∧ (0 : Float) ≤ 1 := by decide +kernel
  have hone : (1 : Float).isNaN = false ∧ (0 : Float) ≤ 1 ∧ (1 : Float) ≤ 1 := by decide +kernel
  cases hx : x.isNaN with
  | true =>
    rw [clampUnit, if_pos hx]
    exact hzero.2
  | false =>
    rw [clampUnit_of_number hx]
    split
    · exact hzero.2
    · rename_i h0
      split
      · exact hone.2
      · rename_i h1
        exact ⟨le_of_not_lt hx hzero.1 h0, le_of_not_lt hone.1 hx h1⟩

theorem isNaN_zero : (0 : Float).isNaN = false := by decide +kernel

theorem DraftSuggestion.isNaN_of_ofJson? {v : Json} {s : DraftSuggestion} (h : ofJson? v = some s) :
    s.confidence.isNaN = false := by
  unfold ofJson? at h
  split at h
  · simp only [bind, Option.bind_eq_some_iff] at h
    obtain ⟨_, -, _, -, _, -, _, -, confidence, hconfidence, h⟩ := h
    cases h
    rcases Slot.withDefault_eq_some hconfidence with rfl | ⟨v, hv⟩
    · exact isNaN_zero
    · exact isNaN_of_float? hv
  · cases h

theorem Draft.isNaN_of_ofJson? {v : Json} {d : Draft} (h : ofJson? v = some d) :
    ∀ s ∈ d.suggestions, s.confidence.isNaN = false := by
  intro s hs
  unfold ofJson? at h
  split at h
  · simp only [bind, Option.bind_eq_some_iff] at h
    obtain ⟨_, -, suggestions, hsuggestions, _, -, _, -, h⟩ := h
    cases h
    rcases Slot.withDefault_eq_some hsuggestions with rfl | ⟨v, hv⟩
    · cases hs
    · obtain ⟨item, hitem⟩ := exists_of_mem_list? hv hs
      exact DraftSuggestion.isNaN_of_ofJson? hitem
  · cases h

/-! ## Suggestions -/

/-- What becomes of the suggestions of a draft, and the warnings on the way. -/
inductive Settled : List DraftSuggestion → List Suggestion → List String → Prop
  | nil : Settled [] [] []
  | kept {d : DraftSuggestion} {k : Kind} {confidence : Float} {ds : List DraftSuggestion}
      {ss : List Suggestion} {warnings : List String} : k.Spelled d.kind →
      Clamped d.confidence confidence → Settled ds ss warnings →
      Settled (d :: ds) (⟨d.oldName, Text.trim d.newName, k, d.reason, confidence⟩ :: ss) warnings
  | dropped {d : DraftSuggestion} {ds : List DraftSuggestion} {ss : List Suggestion}
      {warnings : List String} : (∀ k : Kind, ¬k.Spelled d.kind) → Settled ds ss warnings →
      Settled (d :: ds) ss
        (("Dropping suggestion " ++ d.oldName ++ " -> " ++ d.newName ++ ": unknown entity type '" ++
          d.kind ++ "'") :: warnings)

theorem settled_settle {ds : List DraftSuggestion}
    (hnumbers : ∀ d ∈ ds, d.confidence.isNaN = false) :
    Settled ds (ds.filterMap (·.settle?))
      ((ds.filter (·.settle?.isNone)).map (·.warning)) := by
  induction ds with
  | nil => exact .nil
  | cons d ds ih =>
    obtain ⟨hd, hds⟩ := List.forall_mem_cons.mp hnumbers
    cases hkind : Kind.parse? d.kind with
    | none =>
      have hsettle : d.settle? = none := by rw [DraftSuggestion.settle?, hkind, Option.map_none]
      have hunknown : ∀ k : Kind, ¬k.Spelled d.kind := by
        intro k hk
        rw [← Kind.parse?_eq_some_iff, hkind] at hk
        cases hk
      rw [List.filterMap_cons_none hsettle, List.filter_cons_of_pos (by rw [hsettle]; rfl)]
      exact .dropped hunknown (ih hds)
    | some k =>
      have hsettle : d.settle? = some ⟨d.oldName, Text.trim d.newName, k, d.reason,
          clampUnit d.confidence⟩ := by rw [DraftSuggestion.settle?, hkind, Option.map_some]
      rw [List.filterMap_cons_some hsettle, List.filter_cons_of_neg (by rw [hsettle]; simp)]
      exact .kept ((Kind.parse?_eq_some_iff _ _).mp hkind) (clamped_clampUnit hd) (ih hds)

theorem fit_of_settle? {d : DraftSuggestion} {s : Suggestion} (h : d.settle? = some s) :
    0 ≤ s.confidence ∧ s.confidence ≤ 1 ∧ Text.trim s.newName = s.newName := by
  obtain ⟨k, -, rfl⟩ := Option.map_eq_some_iff.mp h
  obtain ⟨hlow, hhigh⟩ := clampUnit_bounds d.confidence
  exact ⟨hlow, hhigh, by simp [Text.trim]⟩

/-! ## Analyses -/

/-- The draft that a text is. -/
def Draft.ofChars? (cs : List Char) : Option Draft := (parse cs).bind ofJson?

theorem ofAnswer_of_none {answer : String}
    (h : (Answer.stages answer).findSome? Draft.ofChars? = none) :
    Analysis.ofAnswer answer = ⟨⟨"", [], 0, []⟩, ["Analysis response was not valid JSON: " ++
      ("no valid JSON object in model response (preview: " ++
        String.ofList ((Text.trimBoth answer.toList).take 200) ++ ")")]⟩ := by
  unfold Draft.ofChars? at h
  rw [Analysis.ofAnswer, Answer.extract_eq_findSome?, h]
  rfl

theorem ofAnswer_of_some {answer : String} {d : Draft}
    (h : (Answer.stages answer).findSome? Draft.ofChars? = some d) :
    Analysis.ofAnswer answer = d.settle := by
  unfold Draft.ofChars? at h
  rw [Analysis.ofAnswer, Answer.extract_eq_findSome?, h]

/-- An answer without a draft gives an empty analysis and one warning. Otherwise the first reading
that is a draft is taken over, its suggestions kept, mended or dropped with a warning. Either way
every suggestion has a confidence from zero to one and no blanks around its new name. -/
theorem analysis_of_answer (answer : String) :
    ((∀ cs ∈ Answer.stages answer, Draft.ofChars? cs = none) →
      Analysis.ofAnswer answer = ⟨⟨"", [], 0, []⟩, ["Analysis response was not valid JSON: " ++
        ("no valid JSON object in model response (preview: " ++
          String.ofList ((Text.trimBoth answer.toList).take 200) ++ ")")]⟩) ∧
    (∀ earlier cs later d, Answer.stages answer = earlier ++ cs :: later →
      (∀ cs' ∈ earlier, Draft.ofChars? cs' = none) → Draft.ofChars? cs = some d →
      let x := Analysis.ofAnswer answer
      x.value.summary = d.summary ∧ x.value.score = d.score ∧ x.value.issues = d.issues ∧
      Settled d.suggestions x.value.suggestions x.warnings) ∧
    ∀ s ∈ (Analysis.ofAnswer answer).value.suggestions,
      0 ≤ s.confidence ∧ s.confidence ≤ 1 ∧ Text.trim s.newName = s.newName := by
  refine ⟨fun hnone => ?_, fun earlier cs later d hstages hearlier hd => ?_, fun s hs => ?_⟩
  · exact ofAnswer_of_none (List.findSome?_eq_none_iff.mpr hnone)
  · have hfirst : (Answer.stages answer).findSome? Draft.ofChars? = some d := by
      rw [hstages, List.findSome?_append, List.findSome?_eq_none_iff.mpr hearlier, Option.none_or,
        List.findSome?_cons_of_isSome (by rw [hd]; rfl), hd]
    obtain ⟨v, -, hv⟩ := Option.bind_eq_some_iff.mp hd
    simp only [ofAnswer_of_some hfirst]
    exact ⟨rfl, rfl, rfl, settled_settle (Draft.isNaN_of_ofJson? hv)⟩
  · cases hfirst : (Answer.stages answer).findSome? Draft.ofChars? with
    | none =>
      rw [ofAnswer_of_none hfirst] at hs
      cases hs
    | some d =>
      rw [ofAnswer_of_some hfirst] at hs
      obtain ⟨draft, -, hsettle⟩ := List.mem_filterMap.mp hs
      exact fit_of_settle? hsettle

example :
    let x := Analysis.ofAnswer ("```json\n\x7b\"suggestions\": [" ++
      "\x7b\"oldName\": \"a\", \"newName\": \" Sum \", \"entityType\": \" TYPE \", " ++
      "\"confidence\": 7.5\x7d, \x7b\"entityType\": \"kelvin\"\x7d]\x7d\n```")
    x.value.suggestions.map (fun s => (s.oldName, s.newName, s.kind, s.confidence)) =
      [("a", "Sum", .type, 1)] ∧
    x.warnings = ["Dropping suggestion  -> : unknown entity type 'kelvin'"] := by
  decide +kernel

end Renaming
