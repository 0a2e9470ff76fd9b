import CollectionPlan.FilePath
import CollectionPlan.Proofs.Text.Line
import Mathlib.Data.List.Basic

namespace CollectionPlan.FilePath

-- A name that a file or a directory can have.
structure IsName (name : String) : Prop where
  ne_empty : name ≠ ""
  no_slash : '/' ∉ name.toList
  ne_here  : name ≠ "."
  ne_up    : name ≠ ".."

-- A component that can stand behind another one.
inductive IsStep : Component → Prop
  | up : IsStep .up
  | name (h : IsName text) : IsStep (.name text)

-- Components as a path has them: only the first one says where it starts.
inductive IsNormal : List Component → Prop
  | root (h : ∀ c ∈ cs, IsStep c) : IsNormal (.root :: cs)
  | here (h : ∀ c ∈ cs, IsStep c) : IsNormal (.here :: cs)
  | relative (h : ∀ c ∈ cs, IsStep c) : IsNormal cs

variable {p : FilePath} {step : List Char} {c : Component} {cs cs' : List Component}

-- Steps.

theorem IsStep.no_slash (h : IsStep c) : '/' ∉ c.text.toList := by
  cases h
  case up     => decide
  case name h => exact h.no_slash

theorem component?_text (h : IsStep c) : component? c.text.toList = some c := by
  cases h
  case up => rfl
  case name text h =>
    have hn (other : String) (hne : text ≠ other) : text.toList ≠ other.toList :=
      fun he => hne (String.toList_inj.mp he)
    have he : text.toList ≠ [] := hn "" h.ne_empty
    have hh : text.toList ≠ ['.'] := hn "." h.ne_here
    have hu : text.toList ≠ ['.', '.'] := hn ".." h.ne_up
    simp [component?, Component.text, he, hh, hu]

theorem isStep_of_component? (hs : '/' ∉ step) (h : component? step = some c) : IsStep c := by
  unfold component? at h
  split at h
  case isTrue => cases h
  case isFalse hn =>
    simp only [Bool.or_eq_true, decide_eq_true_eq, not_or] at hn
    split at h
    case isTrue =>
      cases h
      exact .up
    case isFalse hu =>
      cases h
      have hl (other : List Char) (hne : step ≠ other) : String.ofList step ≠ String.ofList other :=
        fun he => hne (String.ofList_injective he)
      exact .name {
        ne_empty := hl [] hn.left
        no_slash := by simpa using hs
        ne_here  := hl ['.'] hn.right
        ne_up    := hl ['.', '.'] hu }

theorem filterMap_component?_text (h : ∀ c ∈ cs, IsStep c) :
    (cs.map (·.text.toList)).filterMap component? = cs := by
  rw [List.filterMap_map]
  exact (List.filterMap_congr fun c hc => component?_text (h c hc)).trans List.filterMap_some

-- A path whose first step is not empty starts with this step.
theorem head?_of_steps (h : p.steps.head? = some (a :: step)) : p.toList.head? = some a ∧ a ≠ '/' := by
  unfold steps at h
  cases hp : p.toList
  case nil => simp [hp, Text.splitAt] at h
  case cons b rest =>
    obtain ⟨first, pieces, hs⟩ :=
      List.exists_cons_of_ne_nil (@Text.splitAt_ne_nil (· = '/') rest)
    rw [hp, Text.splitAt, hs] at h
    split at h
    case isTrue => simp at h
    case isFalse hb =>
      simp only [List.head?_cons, Option.some.injEq, List.cons.injEq] at h
      simpa [h.left] using hb

-- Components.

theorem IsNormal.of_prefix (h : IsNormal cs) (hp : cs' <+: cs) : IsNormal cs' := by
  cases cs'
  case nil => exact .relative (List.forall_mem_nil _)
  case cons c cs' =>
    cases h
    case relative h => exact .relative fun c hc => h c (hp.subset hc)
    case root h =>
      obtain ⟨rfl, hs⟩ := List.cons_prefix_cons.mp hp
      exact .root fun c hc => h c (hs.subset hc)
    case here h =>
      obtain ⟨rfl, hs⟩ := List.cons_prefix_cons.mp hp
      exact .here fun c hc => h c (hs.subset hc)

theorem isNormal_components : IsNormal p.components := by
  have h : ∀ c ∈ p.steps.filterMap component?, IsStep c := by
    intro c hc
    have ⟨step, hs, hc⟩ := List.mem_filterMap.mp hc
    exact isStep_of_component? (fun hm => by simpa using Text.not_cut_of_mem_splitAt hs _ hm) hc
  unfold components
  split
  · exact .root h
  · split
    · exact .here h
    · exact .relative h

-- Between its slashes a path has what was put there.
theorem splitAt_intercalate (hn : cs ≠ []) (h : ∀ c ∈ cs, '/' ∉ c.text.toList) :
    Text.splitAt (· = '/') ("/".intercalate (cs.map (·.text))).toList = cs.map (·.text.toList) := by
  rw [String.toList_intercalate, List.map_map]
  refine Text.splitAt_intercalate (by simpa using hn) fun text ht => ?_
  obtain ⟨c, hm, rfl⟩ := List.mem_map.mp ht
  exact h c hm

theorem components_root (h : ∀ c ∈ cs, IsStep c) : (ofComponents (.root :: cs)).components = .root :: cs := by
  have hl : (ofComponents (.root :: cs)).toList = '/' :: ("/".intercalate (cs.map (·.text))).toList := by
    simp [ofComponents]
  have hs : (ofComponents (.root :: cs)).steps.filterMap component? = cs := by
    cases cs
    case nil => rfl
    case cons c cs =>
      have hn := splitAt_intercalate (List.cons_ne_nil c cs) fun c hc => (h c hc).no_slash
      rw [steps, hl, Text.splitAt, if_pos (by decide), hn]
      exact filterMap_component?_text h
  rw [components, hl, List.head?_cons, if_pos rfl, hs]

theorem components_here (h : ∀ c ∈ cs, IsStep c) : (ofComponents (.here :: cs)).components = .here :: cs := by
  have hs : (ofComponents (.here :: cs)).steps = ['.'] :: cs.map (·.text.toList) :=
    splitAt_intercalate (List.cons_ne_nil .here cs)
      (List.forall_mem_cons.mpr ⟨by decide, fun c hc => (h c hc).no_slash⟩)
  have ⟨hh, _⟩ := head?_of_steps (congrArg List.head? hs)
  rw [components, hh, if_neg (by decide), hs, List.head?_cons, if_pos rfl]
  exact congrArg _ (filterMap_component?_text h)

theorem components_relative (h : ∀ c ∈ cs, IsStep c) : (ofComponents cs).components = cs := by
  cases cs
  case nil => rfl
  case cons c cs =>
    have hc : component? c.text.toList = some c := component?_text (h c (List.mem_cons_self ..))
    have ho : ofComponents (c :: cs) = "/".intercalate ((c :: cs).map (·.text)) := by
      cases h c (List.mem_cons_self ..) <;> rfl
    have hs : (ofComponents (c :: cs)).steps = (c :: cs).map (·.text.toList) := by
      rw [ho]
      exact splitAt_intercalate (List.cons_ne_nil c cs) fun c hc => (h c hc).no_slash
    -- Neither nothing nor a single dot is read as a component.
    have hn (step : List Char) (hr : component? step = none) : c.text.toList ≠ step := by
      rintro rfl
      simp [hr] at hc
    have ⟨a, step, ht⟩ := List.exists_cons_of_ne_nil (hn [] rfl)
    have hf : (ofComponents (c :: cs)).steps.head? = some (a :: step) := by simp [hs, ht]
    have ⟨hh, ha⟩ := head?_of_steps hf
    have hd : (ofComponents (c :: cs)).steps.head? ≠ some ['.'] := by
      simpa [hs] using hn ['.'] rfl
    rw [components, hh, if_neg (by simpa using ha), if_neg hd, hs]
    exact filterMap_component?_text h

-- A path that is written from components has these components.
theorem components_ofComponents (h : IsNormal cs) : (ofComponents cs).components = cs := by
  cases h
  case root h     => exact components_root h
  case here h     => exact components_here h
  case relative h => exact components_relative h

end CollectionPlan.FilePath
