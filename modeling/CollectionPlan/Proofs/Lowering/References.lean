import CollectionPlan.Proofs.Lowering.Reading

open CollectionPlan.TypeTree

namespace CollectionPlan

namespace Scope

variable {s : Scope} {site : Site} {position : List Nat} {f : Frame} {t : TypeTree} {ts : List TypeTree}
  {e : TypeExpr}

-- A type has a reference at the place that a position leads to, and lowering comes there.
def HasReference (s : Scope) (t : TypeTree) (position : List Nat) (n : String) : Prop :=
  ∃ site p, s.ComesTo site ∧ site.position = position ∧ site.fill p = t ∧ s.Refers p n

namespace HasReference

theorem here (h : s.Refers t n) : s.HasReference t [] n :=
  ⟨[], t, by simp [ComesTo], rfl, rfl, h⟩

theorem fill (he : s.Enters f) (h : s.HasReference t position n) :
    s.HasReference (f.fill t) (f.position ++ position) n := by
  obtain ⟨site, p, hc, rfl, rfl, hp⟩ := h
  exact ⟨f :: site, p, List.forall_mem_cons.mpr ⟨he, hc⟩, rfl, rfl, hp⟩

theorem elem (ht : ts[k]? = some t) (h : s.HasReference t position n) :
    s.HasReference (.tuple ts) (k :: position) n := by
  obtain ⟨hk, rfl⟩ := List.getElem?_eq_some_iff.mp ht
  have hf := h.fill (f := .tupleElement (ts.take k) (ts.drop (k + 1))) trivial
  simpa [Frame.fill, Frame.position, Nat.le_of_lt hk] using hf

theorem arg (hr : s.ReadsBuiltin leading qualifier name) (hc : name ∈ Builtin.collections)
    (ht : ts[k]? = some t) (h : s.HasReference t position n) :
    s.HasReference (.path leading qualifier name applied ts) (k :: position) n := by
  obtain ⟨hk, rfl⟩ := List.getElem?_eq_some_iff.mp ht
  have hf := h.fill (f := .argument leading qualifier name applied (ts.take k) (ts.drop (k + 1))) ⟨hr, .inr hc⟩
  simpa [Frame.fill, Frame.position, Nat.le_of_lt hk] using hf

end HasReference

-- Below an expression that is no name itself a name is in what one of the parts is lowered to.
theorem exists_of_at? (hn : ∀ n, e ≠ .named n) (hp : e.parts = ts.map s.lower)
    (h : e.at? position = some (.named n)) : ∃ k position' t, position = k :: position' ∧ ts[k]? = some t ∧
      (s.lower t).at? position' = some (.named n) := by
  cases position
  case nil             => exact absurd (Option.some.inj h) (hn n)
  case cons k position =>
    obtain ⟨part, hk, h⟩ := Option.bind_eq_some_iff.mp h
    rw [hp, List.getElem?_map] at hk
    obtain ⟨t, ht, rfl⟩ := Option.map_eq_some_iff.mp hk
    exact ⟨k, position, t, rfl, ht, h⟩

-- So it is below a frame that makes an expression of one part.
theorem HasReference.frame (he : s.Enters f) (hf : f.position = [0]) (hn : ∀ n, e ≠ .named n)
    (hp : e.parts = [s.lower t])
    (ih : ∀ position, (s.lower t).at? position = some (.named n) → s.HasReference t position n)
    (h : e.at? position = some (.named n)) : s.HasReference (f.fill t) position n := by
  have hp : e.parts = [t].map s.lower := hp
  obtain ⟨k, position', t', rfl, hk, ht⟩ := exists_of_at? hn hp h
  rw [List.getElem?_singleton, Option.ite_none_right_eq_some] at hk
  obtain ⟨rfl, hk⟩ := hk
  cases hk
  have hr := (ih position' ht).fill he
  rwa [hf] at hr

-- Every name in what a type is lowered to comes from a reference in the type.
theorem hasReference_of_at? (h : (s.lower t).at? position = some (.named n)) :
    s.HasReference t position n := by
  induction t generalizing position
  case path leading qualifier name applied args ih =>
    have hr : s.Reading leading qualifier name applied args _ := reading_path
    generalize s.lower (.path leading qualifier name applied args) = e at h hr
    cases hr
    case unknown  => cases position <;> cases h
    case named hf =>
      cases position <;> cases h
      exact .here hf
    case builtin hr hb =>
      cases hb
      case primitive | unknown => cases position <;> cases h
      case wrapper hw he =>
        obtain ⟨t, ts, rfl, rfl, _⟩ := List.map_eq_cons_iff.mp he
        have he : s.Enters (.argument leading qualifier name applied [] ts) := ⟨hr, .inl ⟨hw, rfl⟩⟩
        exact .frame he rfl (by simp) rfl (fun _ => ih t (by simp)) h
      case dynamic hc =>
        obtain ⟨k, position, t, rfl, ht, h⟩ := exists_of_at? (by simp) rfl h
        exact .arg hr hc ht (ih t (List.mem_of_getElem? ht) h)
  case reference referent ih =>
    rw [lower] at h
    split at h
    case isTrue  => cases position <;> cases h
    case isFalse => exact .frame (f := .referent) trivial rfl (by simp) rfl (fun _ => ih) h
  case rawPointer ih =>
    rw [lower] at h
    exact .frame (f := .pointee) trivial rfl (by simp) rfl (fun _ => ih) h
  case array ih =>
    rw [lower] at h
    exact .frame (f := .element) trivial rfl (by simp) rfl (fun _ => ih) h
  case slice ih =>
    rw [lower] at h
    exact .frame (f := .sliceElement) trivial rfl (by simp) rfl (fun _ => ih) h
  case tuple ts ih =>
    by_cases hts : ts = []
    case pos =>
      subst hts
      cases position <;> cases h
    case neg =>
      rw [lower_tuple hts] at h
      obtain ⟨k, position, t, rfl, ht, h⟩ := exists_of_at? (by simp) rfl h
      exact .elem ht (ih t (List.mem_of_getElem? ht) h)
  case paren ih =>
    rw [lower] at h
    exact (ih h).fill (f := .parentheses) trivial
  case function | object | other => cases position <;> cases h

-- Each name in what a type is lowered to comes from a place of its own in the type, with `Self` there or the
-- name as a local path, and neither is hidden. Lowering a path gives a name in no other way.
theorem references_local (s : Scope) (t : TypeTree) :
    (∀ position n, (s.lower t).at? position = some (.named n) ↔
      ∃ site p, s.ComesTo site ∧ site.position = position ∧ site.fill p = t ∧ s.Refers p n) ∧
    ∀ leading qualifier name applied args n,
      s.lower (.path leading qualifier name applied args) = .named n ↔
        s.Refers (.path leading qualifier name applied args) n := by
  refine ⟨fun position n => ⟨hasReference_of_at?, ?_⟩, fun _ _ _ _ _ _ => lower_path_eq_named_iff⟩
  rintro ⟨site, p, hc, rfl, rfl, hp⟩
  rw [at?_fill hc hp.isName_eq_false, lower_of_refers hp]

-- A double colon in front of `self` does not keep a path from referring to a declaration.
theorem reference_behind_colon : ∃ t, Grammar.type? "::self::Point" = some t ∧
    ({} : Scope).lower t = .named "Point" ∧
    ∀ site leading qualifier name applied args,
      Site.fill site (.path leading qualifier name applied args) = t →
        ¬(leading = false ∧ (qualifier = [] ∨ qualifier = ["self"])) := by
  have ht : Grammar.type? "::self::Point" = some (.path true ["self"] "Point" false []) := by decide +kernel
  refine ⟨_, ht, rfl, fun site leading qualifier name applied args hf hl => ?_⟩
  cases site
  case nil      => simp_all
  case cons f _ => cases f <;> simp [Frame.fill] at hf

end Scope
end CollectionPlan
