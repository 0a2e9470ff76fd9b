import CollectionPlan.Proofs.Directive.FirstLine
import CollectionPlan.Proofs.Directive.Reading
import CollectionPlan.Proofs.Directive.Tag

namespace CollectionPlan.Directive

-- A character that keeps an item whole.
def isItemChar (c : Char) : Bool :=
  c ≠ ',' && c ≠ '"' && !Text.isBlank c

-- An item of a tag as it can be written.
structure Item where
  text  : String
  plain : text.toList.all isItemChar

-- A word behind the marker as it can be written.
inductive Written
  -- A tag. A lone item without characters would read as no item.
  | tag (key : Tag.Key) (items : List Item) (hi : items.map (·.text) ≠ [""])
  -- Any word in which no tag stands, the star among them.
  | other (text : List Char) (hn : text ≠ []) (hb : text.all (!Text.isBlank ·))
    (ht : ∀ key, ¬Tag.Occurs key text)

-- Blanks in front of a word.
structure Gap where
  text   : List Char
  ne_nil : text ≠ []
  blank  : text.all Text.isBlank

-- A directive line as it can be written.
structure WrittenLine where
  lead  : List Char
  skip  : lead.all fun c => c = '/' || Text.isBlank c
  words : List (Gap × Written)

namespace Written

variable {key : Tag.Key} {items : List Item} {c : Char}

def value (items : List Item) : List Char :=
  [','].intercalate (items.map (·.text.toList))

def text : Written → List Char
  | tag key items _ => key.opening ++ value items ++ ['"']
  | other text ..   => text

-- What a word says under a name.
def tag? (key : Tag.Key) : Written → Option Tag
  | tag k items _ => if k = key then some ⟨items.map (·.text)⟩ else none
  | other ..      => none

theorem mem_value (h : c ∈ value items) : c = ',' ∨ ∃ i ∈ items, c ∈ i.text.toList := by
  rcases Text.mem_of_mem_intercalate h with h | ⟨text, ht, hc⟩
  · exact .inl (List.mem_singleton.mp h)
  · obtain ⟨i, hi, rfl⟩ := List.mem_map.mp ht
    exact .inr ⟨i, hi, hc⟩

theorem isItemChar_of_mem {i : Item} (h : c ∈ i.text.toList) : isItemChar c :=
  List.all_eq_true.mp i.plain c h

theorem value_plain (h : c ∈ value items) : c ≠ '"' ∧ Text.isBlank c = false := by
  cases mem_value h
  case inl h => exact h ▸ ⟨by decide, by decide⟩
  case inr h =>
    have ⟨i, _, hc⟩ := h
    have hp := isItemChar_of_mem hc
    simp_all [isItemChar]

theorem splitAt_value (hn : items ≠ []) :
    Text.splitAt (· = ',') (value items) = items.map (·.text.toList) := by
  refine Text.splitAt_intercalate (by simpa using hn) fun text ht hc => ?_
  obtain ⟨i, _, rfl⟩ := List.mem_map.mp ht
  have hp := isItemChar_of_mem hc
  simp [isItemChar] at hp

-- A value falls apart at its commas into the items that were joined by them.
theorem itemsOf_value (hi : items.map (·.text) ≠ [""]) :
    Tag.itemsOf (value items) = items.map (·.text) := by
  cases items
  case nil => rfl
  case cons i items =>
    have hs := splitAt_value (List.cons_ne_nil i items)
    have hv : value (i :: items) ≠ [] := by
      intro hv
      simp_all [Text.splitAt]
    rw [Tag.itemsOf, hs]
    simp [hv]

theorem not_blank (w : Written) : ∀ c ∈ w.text, Text.isBlank c = false := by
  intro c hc
  cases w
  case other text _ hb _ => simpa using List.all_eq_true.mp hb c hc
  case tag key items _ =>
    have ho : key.opening.all (!Text.isBlank ·) := by cases key <;> decide
    simp only [text, List.mem_append, List.mem_singleton] at hc
    rcases hc with (hc | hc) | rfl
    · simpa using List.all_eq_true.mp ho c hc
    · exact (value_plain hc).right
    · decide

theorem ne_nil (w : Written) : w.text ≠ [] := by
  cases w
  case tag               => simp [text]
  case other text hn _ _ => exact hn

-- Each word is read as what it was written for, and as nothing else.
theorem ofToken?_text (w : Written) : Tag.ofToken? key w.text = w.tag? key := by
  cases w
  case other text _ _ ht => exact Tag.ofToken?_eq_none_iff.mpr (ht key)
  case tag k items hi =>
    have hv : '"' ∉ value items := fun h => (value_plain h).left rfl
    by_cases hk : k = key
    case pos =>
      subst hk
      rw [text, tag?, if_pos rfl, Tag.ofToken?, Tag.value?_whole, Option.map_some, itemsOf_value hi]
    case neg =>
      rw [text, tag?, if_neg hk]
      exact Tag.ofToken?_eq_none_iff.mpr (Tag.not_occurs_whole (Ne.symm hk) hv)

end Written

namespace WrittenLine

variable (l : WrittenLine)

def text : List Char :=
  l.lead ++ marker ++ l.words.flatMap fun (gap, word) => gap.text ++ word.text

-- What the tags of one name say, in their order.
def tags (key : Tag.Key) : List Tag :=
  l.words.filterMap fun (_, word) => word.tag? key

theorem strip_text : strip l.text = marker ++ l.words.flatMap fun (gap, word) => gap.text ++ word.text := by
  refine strip_eq_iff.mpr ⟨l.lead, List.append_assoc .., fun c hc => ?_, fun c hc => ?_⟩
  case refine_1 => simpa using List.all_eq_true.mp l.skip c hc
  case refine_2 =>
    cases hc
    decide

theorem isDirectiveLine_text : isDirectiveLine l.text = true := by
  rw [isDirectiveLine, strip_text, List.isPrefixOf_iff_prefix]
  exact List.prefix_append ..

-- The blanks in front of each word keep it apart from all that stands before.
theorem words_append_flatMap {words : List (Gap × Written)} {cs : List Char} :
    Text.words (cs ++ words.flatMap fun (gap, word) => gap.text ++ word.text) =
      Text.words cs ++ words.map (·.2.text) := by
  induction words generalizing cs
  case nil => simp
  case cons w words ih =>
    obtain ⟨gap, word⟩ := w
    rw [List.flatMap_cons, ←List.append_assoc, ih, ←List.append_assoc,
      Text.words_append_blanks_append gap.ne_nil (List.all_eq_true.mp gap.blank),
      Text.words_word word.ne_nil word.not_blank]
    simp

theorem words_strip_text : Text.words (strip l.text) = marker :: l.words.map (·.2.text) := by
  have hm : Text.words marker = [marker] := by decide
  rw [strip_text, words_append_flatMap, hm]
  rfl

theorem tag?_text (name : String) (key : Tag.Key) :
    (ofLine name l.text).tag? key = (l.tags key).getLast? := by
  have hm : Tag.ofToken? key marker = none := by cases key <;> decide
  rw [tag?_ofLine, words_strip_text, List.filterMap_cons_none hm, List.filterMap_map]
  congr 2
  funext w
  exact w.2.ofToken?_text

theorem pointer_text (name : String) :
    (ofLine name l.text).pointer = decide (∃ w ∈ l.words, w.2.text = ['*']) := by
  have hm : ['*'] ≠ marker := by decide
  rw [pointer_ofLine, isPointerLine, words_strip_text, Bool.eq_iff_iff]
  simp [hm]

theorem ofLine_text (name : String) : ofLine name l.text = {
    name
    pointer     := decide (∃ w ∈ l.words, w.2.text = ['*'])
    methods     := (l.tags .methods).getLast?
    projections := (l.tags .projections).getLast? } := by
  rw [←l.pointer_text name, ←l.tag?_text name, ←l.tag?_text name]
  simp only [tag?]
  exact congrArg (Directive.mk · _ _ _) name_ofLine

end WrittenLine

variable {doc : String} {before after : List (List Char)} {l : WrittenLine}

-- The first directive line of a text is read as it was written: the star counts wherever it stands, of the
-- tags of one name the last one, and nothing else does.
theorem written_line_reads (name : String) (hd : Text.lines doc.toList = before ++ l.text :: after)
    (hb : ∀ line ∈ before, isDirectiveLine line = false) :
    ofDoc? doc name = some {
      name
      pointer     := decide (∃ w ∈ l.words, w.2.text = ['*'])
      methods     := (l.tags .methods).getLast?
      projections := (l.tags .projections).getLast? } := by
  have hf : before.find? isDirectiveLine = none := by simpa using hb
  rw [ofDoc?, hd, List.find?_append, hf, List.find?_cons_of_pos l.isDirectiveLine_text, Option.none_or,
    Option.map_some, l.ofLine_text]

-- Items may read like the start of a tag themselves, and a later directive line says nothing.

def craneDoc : String :=
  "Lifts loads.\n/// +gen methods:\"lift\" *\tprojections:\"\" x:y  methods:\"load,projections:\"\r\n+gen\n"

def space : Gap :=
  ⟨[' '], by decide, by decide⟩

def craneLine : WrittenLine where
  lead  := "/// ".toList
  skip  := by decide
  words := [
    (space, .tag .methods [⟨"lift", by decide⟩] (by decide)),
    (space, .other ['*'] (by decide) (by decide) (by decide)),
    (⟨['\t'], by decide, by decide⟩, .tag .projections [] (by decide)),
    (space, .other "x:y".toList (by decide) (by decide) (by decide)),
    (⟨[' ', ' '], by decide, by decide⟩,
      .tag .methods [⟨"load", by decide⟩, ⟨"projections:", by decide⟩] (by decide))]

theorem crane_line_reads :
    Text.lines craneDoc.toList = ["Lifts loads.".toList] ++ craneLine.text :: ["+gen".toList] ∧
    (∀ line ∈ ["Lifts loads.".toList], isDirectiveLine line = false) ∧
    ofDoc? craneDoc "Crane" = some {
      name        := "Crane"
      pointer     := true
      methods     := some ⟨["load", "projections:"]⟩
      projections := some ⟨[]⟩ } := by
  have hd : Text.lines craneDoc.toList =
      ["Lifts loads.".toList] ++ craneLine.text :: ["+gen".toList] := by decide
  have hb : ∀ line ∈ ["Lifts loads.".toList], isDirectiveLine line = false := by decide
  exact ⟨hd, hb, (written_line_reads "Crane" hd hb).trans (by decide)⟩

end CollectionPlan.Directive
