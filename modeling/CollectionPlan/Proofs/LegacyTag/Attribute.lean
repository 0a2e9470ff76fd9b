import CollectionPlan.Grammar.Source
import CollectionPlan.Lowering
import CollectionPlan.Proofs.LegacyTag.Rendering
import CollectionPlan.Proofs.Lowering.Site

namespace CollectionPlan

namespace Attribute

open LegacyTag Token

-- What is written behind the path, without the signs around it.
def Body.content : Body → List Token
  | word           => []
  | list _ content => content
  | value content  => content

-- Whether there is a list in parentheses or a value.
def Body.isRequest : Body → Bool
  | list .parenthesis _ | value _ => true
  | _                             => false

-- An attribute that used to request methods.
def isRetired (a : Attribute) : Bool :=
  a.hasPath "collgen" && a.body.isRequest

variable {a : Attribute} {b : Body} {t : Token}

theorem silent_operator (h : t ∈ operator [':', ':']) : Silent t.text := by
  simp only [operator, List.mem_cons, List.not_mem_nil, or_false] at h
  rcases h with rfl | rfl <;> exact silent_of_not_mem (by decide)

theorem silent_pathTokens (h : t ∈ pathTokens ws) : Silent t.text := by
  induction ws using pathTokens.induct
  case case1 => cases h
  case case2 =>
    cases List.mem_singleton.mp h
    exact silent_word
  case case3 ih =>
    simp only [pathTokens, List.mem_cons, List.mem_append] at h
    rcases h with rfl | h | h
    · exact silent_word
    · exact silent_operator h
    · exact ih h

theorem has_body : has (render (b.tokens ++ [closing .bracket])) = has (render b.content) := by
  have hb : has (render [closing .bracket]) = false := by decide
  cases b
  case word => exact hb
  case list d content =>
    have hd : Silent (opening d).text := by cases d <;> exact silent_of_not_mem (by decide)
    have ht : Body.tokens (.list d content) ++ [closing .bracket] =
        opening d :: (content ++ closing d :: [closing .bracket]) := by simp [Body.tokens]
    rw [ht, has_render_cons hd, has_render_closing, hb, Bool.or_false, Body.content]
  case value content =>
    have hp : Silent (punct '=' false).text := silent_of_not_mem (by decide)
    have ht : Body.tokens (.value content) ++ [closing .bracket] =
        punct '=' false :: (content ++ closing .bracket :: []) := by simp [Body.tokens]
    rw [ht, has_render_cons hp, has_render_closing, render, has_empty, Bool.or_false, Body.content]

-- The tokens behind the opening bracket.
def inside (a : Attribute) : List Token :=
  (if a.leading then operator [':', ':'] else []) ++ pathTokens a.path ++ a.body.tokens ++ [closing .bracket]

theorem text_eq : a.text = "#" ++ (" [" ++ render a.inside) := by
  have ht : a.tokens = punct '#' false :: opening .bracket :: a.inside := by simp [tokens, inside]
  rw [text, ht]
  cases hi : a.inside
  case nil => simp [inside] at hi
  case cons u us =>
    have hg : gap (opening .bracket) u = "" := rfl
    rw [render, render, hg]
    rfl

theorem has_inside : has (render a.inside) = has (render a.body.content) := by
  rw [inside, List.append_assoc, has_render_append, has_body]
  intro t ht
  rcases List.mem_append.mp ht with ho | hp
  · split at ho
    · exact silent_operator ho
    · cases ho
  · exact silent_pathTokens hp

-- Behind the path there is a sign, which tells whether there is a list in parentheses or a value.
theorem Body.sign : ∃ u us c, b.tokens ++ [closing .bracket] = u :: us ∧ u.text.toList = [c] ∧
    Text.isBlank c = false ∧ Text.isIdentContinue c = false ∧ (c = '(' || c = '=') = b.isRequest := by
  cases b
  case word      => exact ⟨_, _, _, rfl, rfl, rfl, rfl, rfl⟩
  case value     => exact ⟨_, _, _, rfl, rfl, rfl, rfl, rfl⟩
  case list d _  => cases d <;> exact ⟨_, _, _, rfl, rfl, rfl, rfl, rfl⟩

theorem startsName_inside : startsName (render a.inside).toList = a.isRetired := by
  obtain ⟨leading, path, body⟩ := a
  obtain ⟨u, us, c, ht, hu, hb, hc, hs⟩ := Body.sign (b := body)
  cases leading
  case true =>
    simp only [inside, isRetired, hasPath]
    exact startsName_sign rfl rfl rfl
  case false =>
    simp only [inside, isRetired, hasPath, List.append_assoc, ht]
    cases path
    case nil => exact startsName_sign hu hb hc
    case cons w ws =>
      cases ws
      case nil  => simpa [hs, pathTokens] using startsName_ident hu hb hc
      case cons =>
        have hc : (punct ':' true).text.toList = [':'] := rfl
        simpa [pathTokens, operator] using startsName_ident hc rfl rfl

-- In the text of an attribute nothing starts an attribute but its own hash and what is in its body.
theorem has_text : has a.text = (a.isRetired || has (render a.body.content)) := by
  have hs : startsAttribute (" [" ++ render a.inside).toList = startsName (render a.inside).toList := by
    rw [String.toList_append]
    exact startsAttribute_bracket
  have hb : Silent " [" := silent_of_not_mem (by decide)
  rw [text_eq, has_hash, hs, hb, has_inside, startsName_inside]

-- The text of an attribute ends with its closing bracket.
theorem exists_text : ∃ front, a.text = front ++ Delimiter.bracket.right := by
  obtain ⟨init, ht⟩ : ∃ init, a.tokens = init ++ [closing .bracket] := ⟨_, rfl⟩
  obtain ⟨g, -, h⟩ := render_append init [closing .bracket]
  exact ⟨_, by rw [text, ht, h]; rfl⟩

theorem has_rawTag : has (rawTag attrs) =
    (attrs.filter (!·.isDoc)).any fun a => a.isRetired || has (render a.body.content) := by
  rw [rawTag, has_intercalate]
  · simp [has_text, Function.comp_def]
  · intro s hs
    obtain ⟨a, _, rfl⟩ := List.mem_map.mp hs
    exact exists_text

theorem isDoc_eq_false (h : a.isRetired) : a.isDoc = false := by
  simp only [isRetired, hasPath, Bool.and_eq_true, decide_eq_true_eq] at h
  simp [isDoc, hasPath, h.left.right]

-- The start of a retired attribute stands in what is written behind the path.
def Quotes (a : Attribute) : Prop :=
  Mentions (render a.body.content).toList

theorem has_rawTag_iff : has (rawTag attrs) ↔
    (∃ a ∈ attrs, a.isRetired) ∨ ∃ a ∈ attrs, a.isDoc = false ∧ a.Quotes := by
  rw [has_rawTag, List.any_filter, List.any_eq_true, ← exists_or]
  refine exists_congr fun a => ?_
  rw [← and_or_left, Bool.and_eq_true, Bool.or_eq_true, has_iff, Bool.not_eq_true']
  refine and_congr_right fun _ => ⟨fun ⟨hd, h⟩ => h.imp_right fun hq => ⟨hd, hq⟩, ?_⟩
  rintro (hr | ⟨hd, hq⟩)
  · exact ⟨isDoc_eq_false hr, .inl hr⟩
  · exact ⟨hd, .inr hq⟩

end Attribute

namespace TypeItem

open LegacyTag

-- A field counts as one with a retired attribute exactly if it has one, or if the start of one stands in the
-- body of another attribute that is no documentation, be it in a literal or between brackets. So the retired
-- attributes are all that counts exactly if no field without one has an attribute with such a body.
theorem field_retired_iff (s : Scope) (index : Nat) (f : Field) :
    (has (lowerField s index f).rawTag ↔
      (∃ a ∈ f.attrs, a.isRetired) ∨ ∃ a ∈ f.attrs, a.isDoc = false ∧ a.Quotes) ∧
    ((has (lowerField s index f).rawTag ↔ ∃ a ∈ f.attrs, a.isRetired) ↔
      ((∃ a ∈ f.attrs, a.isDoc = false ∧ a.Quotes) → ∃ a ∈ f.attrs, a.isRetired)) := by
  have hr : has (lowerField s index f).rawTag ↔
      (∃ a ∈ f.attrs, a.isRetired) ∨ ∃ a ∈ f.attrs, a.isDoc = false ∧ a.Quotes :=
    Attribute.has_rawTag_iff
  exact ⟨hr, by rw [hr, or_iff_left_iff_imp]⟩

-- Two fields with the start of a retired attribute in a literal and in a group.
def quotedSource : String :=
  "struct Item(#[serde(rename = \"#[collgen(x)]\")] f64, #[cfg_attr(x, #[collgen(a)])] u8);"

def quotedFields : List Field := [
  ⟨none, [⟨false, [⟨"serde", by decide⟩], .list .parenthesis [.ident ⟨"rename", by decide⟩, .punct '=' false,
    .literal "\"#[collgen(x)]\""]⟩], .path false [] "f64" false []⟩,
  ⟨none, [⟨false, [⟨"cfg_attr", by decide⟩], .list .parenthesis [.ident ⟨"x", by decide⟩, .punct ',' false,
    .punct '#' false, .opening .bracket, .ident ⟨"collgen", by decide⟩, .opening .parenthesis,
    .ident ⟨"a", by decide⟩, .closing .parenthesis, .closing .bracket]⟩], .path false [] "u8" false []⟩]

-- Fields without a retired attribute count as fields with one.
theorem field_retired_in_text :
    (Grammar.items quotedSource).toOption =
      some [some ⟨⟨⟨"Item", by decide⟩, by decide⟩, [], [], .struct quotedFields⟩] ∧
    ∀ s index, ∀ f ∈ quotedFields, has (lowerField s index f).rawTag ∧ ¬∃ a ∈ f.attrs, a.isRetired := by
  refine ⟨by decide +kernel, fun s index f hf => ?_⟩
  have ht : ∀ f ∈ quotedFields, has (Attribute.rawTag f.attrs) ∧ ¬∃ a ∈ f.attrs, a.isRetired := by decide +kernel
  exact ht f hf

end TypeItem
end CollectionPlan
