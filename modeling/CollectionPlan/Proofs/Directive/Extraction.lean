import CollectionPlan.Proofs.Directive.Tag
import Mathlib.Data.List.Count

namespace CollectionPlan

namespace Text

variable {key cs before after front back : List Char} {c d : Char}

-- The key stands at no place in front of the one that is found.
theorem length_le_of_breakOn (h : breakOn key cs = some (before, after)) (he : cs = front ++ key ++ back) :
    before.length ≤ front.length := by
  induction cs generalizing before front
  case nil =>
    simp only [breakOn] at h
    split at h <;> simp_all
  case cons c cs ih =>
    simp only [breakOn] at h
    split at h
    case isTrue =>
      cases h
      exact Nat.zero_le _
    case isFalse hp =>
      obtain ⟨⟨before, after⟩, hb, hc⟩ := Option.map_eq_some_iff.mp h
      cases hc
      cases front
      case nil  => simp [he] at hp
      case cons =>
        cases he
        exact Nat.succ_le_succ (ih hb rfl)

theorem breakOn_eq_some_iff : breakOn key cs = some (before, after) ↔
    cs = before ++ key ++ after ∧ ∀ front back, cs = front ++ key ++ back → before.length ≤ front.length where
  mp h := ⟨eq_of_breakOn h, fun _ _ => length_le_of_breakOn h⟩
  mpr := by
    intro ⟨he, hf⟩
    obtain ⟨before', after', hb, _⟩ := breakOn_of_eq he
    have he' := eq_of_breakOn hb
    have hl : before.length = before'.length := Nat.le_antisymm (hf _ _ he') (length_le_of_breakOn hb he)
    rw [he, List.append_assoc, List.append_assoc] at he'
    obtain ⟨rfl, hk⟩ := List.append_inj he' hl
    rw [hb, List.append_cancel_left hk]

-- Pieces without characters.

-- The first piece is empty if a text starts with a cut.
theorem count_nil_splitAt_cons : (splitAt (· = c) (d :: cs)).count [] =
    (if d = c then 1 else 0) + (splitAt (· = c) (d :: cs)).tail.count [] := by
  have ⟨piece, pieces, hs⟩ := List.exists_cons_of_ne_nil (@splitAt_ne_nil (· = c) cs)
  by_cases h : d = c <;> simp [splitAt, hs, h, Nat.add_comm]

-- A piece behind the first one is empty if it stands between two cuts, or behind one that ends the text.
theorem count_nil_tail_splitAt : (splitAt (· = c) cs).tail.count [] =
    (cs.zip cs.tail).count (c, c) + if cs.getLast? = some c then 1 else 0 := by
  induction cs
  case nil => rfl
  case cons d cs ih =>
    have ⟨piece, pieces, hs⟩ := List.exists_cons_of_ne_nil (@splitAt_ne_nil (· = c) cs)
    by_cases h : d = c
    case pos =>
      subst h
      cases cs
      case nil       => simp [splitAt]
      case cons e cs =>
        have ht : (splitAt (· = d) (d :: e :: cs)).tail = splitAt (· = d) (e :: cs) := by simp [splitAt]
        rw [ht, count_nil_splitAt_cons, ih]
        by_cases he : e = d
        · simp [he]
          omega
        · simp [he]
    case neg =>
      have ht : (splitAt (· = c) (d :: cs)).tail = (splitAt (· = c) cs).tail := by simp [splitAt, hs, h]
      rw [ht, ih]
      cases cs <;> simp [h]

theorem count_nil_splitAt (hn : cs ≠ []) : (splitAt (· = c) cs).count [] =
    (if cs.head? = some c then 1 else 0) + (cs.zip cs.tail).count (c, c) +
      if cs.getLast? = some c then 1 else 0 := by
  obtain ⟨d, cs, rfl⟩ := List.exists_cons_of_ne_nil hn
  rw [count_nil_splitAt_cons, count_nil_tail_splitAt, ←Nat.add_assoc]
  simp

end Text

namespace Tag

-- A value stands in a text between the first opening and the last quote.
def Encloses (key : Key) (text value : List Char) : Prop :=
  ∃ front back, text = front ++ key.opening ++ (value ++ '"' :: back) ∧ '"' ∉ back ∧
    ∀ front' rest, text = front' ++ key.opening ++ rest → front.length ≤ front'.length

-- What a value lists: nothing if it is empty, and otherwise what its commas join.
inductive Lists : List Char → List String → Prop
  | nothing : Lists [] []
  | joined {items : List String} (hn : value ≠ []) (hc : ∀ item ∈ items, ',' ∉ item.toList)
    (hj : (",".intercalate items).toList = value) : Lists value items

variable {key : Key} {text value : List Char} {items : List String}

theorem value?_eq_some_iff : value? key text = some value ↔ Encloses key text value where
  mp h := by
    obtain ⟨⟨front, after⟩, hb, hl⟩ := Option.bind_eq_some_iff.mp h
    obtain ⟨back, rfl, hq⟩ := beforeLastQuote?_eq_some_iff.mp hl
    have ⟨he, hf⟩ := Text.breakOn_eq_some_iff.mp hb
    exact ⟨front, back, he, hq, hf⟩
  mpr := by
    rintro ⟨front, back, he, hq, hf⟩
    have hb := Text.breakOn_eq_some_iff.mpr ⟨he, hf⟩
    simp [value?, hb, beforeLastQuote?_append hq]

theorem map_toList_itemsOf (h : value ≠ []) :
    (itemsOf value).map (·.toList) = Text.splitAt (· = ',') value := by
  simp [itemsOf, h, Function.comp_def]

theorem lists_itemsOf (value : List Char) : Lists value (itemsOf value) := by
  by_cases h : value = []
  case pos =>
    subst h
    exact .nothing
  case neg =>
    have hm := map_toList_itemsOf h
    refine .joined h (fun item hi => ?_) ?_
    case refine_1 =>
      have hp : item.toList ∈ Text.splitAt (· = ',') value := hm ▸ List.mem_map_of_mem hi
      exact fun hc => by simpa using Text.not_cut_of_mem_splitAt hp _ hc
    case refine_2 =>
      rw [String.toList_intercalate, hm]
      exact Text.intercalate_splitAt

-- No other items would do, since a text is cut at its commas in one way.
theorem Lists.eq_itemsOf (h : Lists value items) : items = itemsOf value := by
  cases h
  case nothing           => rfl
  case joined hn hc hj =>
    have hi : items ≠ [] := by
      rintro rfl
      exact hn hj.symm
    have hs : Text.splitAt (· = ',') value = items.map (·.toList) := by
      rw [←hj, String.toList_intercalate]
      refine Text.splitAt_intercalate (by simpa using hi) fun text ht => ?_
      obtain ⟨item, hm, rfl⟩ := List.mem_map.mp ht
      exact hc item hm
    rw [itemsOf, if_neg (by simpa using hn), hs]
    simp

theorem lists_iff : Lists value items ↔ items = itemsOf value :=
  ⟨Lists.eq_itemsOf, fun h => h ▸ lists_itemsOf value⟩

theorem Lists.count_empty (h : Lists value items) : items.count "" =
    (if value.head? = some ',' then 1 else 0) + (value.zip value.tail).count (',', ',') +
      if value.getLast? = some ',' then 1 else 0 := by
  cases h
  case nothing      => rfl
  case joined hn hc hj =>
    have hi : Function.Injective String.toList := fun _ _ => String.toList_inj.mp
    have hm := List.count_map_of_injective items _ hi ""
    rw [←hm, (Lists.joined hn hc hj).eq_itemsOf, map_toList_itemsOf hn]
    exact Text.count_nil_splitAt hn

-- A tag is found exactly if its opening stands somewhere with a quote behind it. Its value reaches from the
-- first such opening to the last quote, over all quotes and openings in between. Each comma that leads the
-- value, ends it or follows another one makes an item without characters, and nothing else does.
theorem ofToken?_extracts (key : Key) (text : List Char) :
    ((ofToken? key text).isSome ↔ Occurs key text) ∧
    (∀ tag, ofToken? key text = some tag ↔ ∃ value, Encloses key text value ∧ Lists value tag.items) ∧
    ∀ value items, Lists value items → items.count "" =
      (if value.head? = some ',' then 1 else 0) + (value.zip value.tail).count (',', ',') +
        if value.getLast? = some ',' then 1 else 0 := by
  refine ⟨?_, fun tag => ?_, fun value items h => h.count_empty⟩
  case refine_1 => rw [ofToken?, Option.isSome_map, isSome_value?_iff]
  case refine_2 =>
    rw [ofToken?, Option.map_eq_some_iff]
    refine exists_congr fun value => and_congr value?_eq_some_iff ?_
    cases tag
    simp [lists_iff, eq_comm]

-- Two tags in one word: the value of the first one goes on over the second one.

def gluedWord : List Char :=
  "methods:\"A,,B\"projections:\"C,\"".toList

def gluedValue : List Char :=
  "A,,B\"projections:\"C,".toList

def gluedItems : List String :=
  ["A", "", "B\"projections:\"C", ""]

theorem ofToken?_extracts_glued :
    Occurs .methods gluedWord ∧ Occurs .projections gluedWord ∧
    Encloses .methods gluedWord gluedValue ∧ Lists gluedValue gluedItems ∧
    ofToken? .methods gluedWord = some ⟨gluedItems⟩ ∧ gluedItems.count "" = 2 ∧
    ofToken? .projections gluedWord = some ⟨["C", ""]⟩ := by
  have ⟨hs, ht, hc⟩ := ofToken?_extracts .methods gluedWord
  have ⟨hs', _, _⟩ := ofToken?_extracts .projections gluedWord
  have he : Encloses .methods gluedWord gluedValue := ⟨[], [], rfl, by simp, fun _ _ _ => Nat.zero_le _⟩
  have hl : Lists gluedValue gluedItems := .joined (by decide) (by decide) (by decide)
  exact ⟨hs.mp (by decide), hs'.mp (by decide), he, hl, (ht _).mpr ⟨_, he, hl⟩,
    (hc _ _ hl).trans (by decide), by decide⟩

end Tag
end CollectionPlan
