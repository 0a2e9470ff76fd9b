import CollectionPlan.Proofs.Grammar.Identifier
import CollectionPlan.Proofs.Resolution.OwnName

namespace CollectionPlan.Grammar

-- Whatever a parser reads at a cursor satisfies a property.
def Reads (p : Parser α) (c : Cursor) (P : α → Prop) : Prop :=
  ∀ a d, p c = .ok (a, d) → P a

namespace Reads

variable {p : Parser α} {f : α → Parser β} {c : Cursor} {b : Prop} [Decidable b] {P : α → Prop}
  {Q : β → Prop}

theorem pure (h : P a) : Reads (pure a) c P := by
  intro b d he
  cases he
  exact h

theorem fail : Reads (fail : Parser α) c P := by
  intro a d he
  cases he

theorem bind (h : ∀ a d, p c = .ok (a, d) → Reads (f a) d Q) : Reads (p >>= f) c Q := by
  intro b e he
  rw [run_bind] at he
  cases hp : p c
  case error => simp [hp, Bind.bind, Except.bind] at he
  case ok ad => exact h ad.1 ad.2 hp b e (by simpa [hp] using he)

-- Whatever stands in front does not matter.
theorem behind (h : ∀ a d, Reads (f a) d Q) : Reads (p >>= f) c Q :=
  bind fun a d _ => h a d

theorem choice {q : Parser α} (hp : Reads p c P) (hq : Reads q c P) : Reads (if b then p else q) c P := by
  split
  case isTrue  => exact hp
  case isFalse => exact hq

-- A step that is taken or not.
theorem option {p : Parser Unit} {f : Unit → Parser β} (h : ∀ d, Reads (f ()) d Q) :
    Reads (if b then p >>= f else f ()) c Q :=
  choice (behind fun _ => h) (h c)

-- Steps with one continuation.
theorem either {q : Parser α} (h : ∀ a d, Reads (f a) d Q) : Reads (if b then p >>= f else q >>= f) c Q :=
  choice (behind h) (behind h)

theorem separated {s : String} {stop : List Placed → Bool} (h : ∀ c, Reads p c P) :
    Reads (separated s stop p) c fun as => ∀ a ∈ as, P a := by
  have hg (fuel c) : Reads (separated.go s stop p fuel) c fun as => ∀ a ∈ as, P a := by
    induction fuel generalizing c
    case zero => exact pure (by simp)
    case succ fuel ih =>
      refine behind fun b d => ?_
      split
      case isTrue => exact pure (by simp)
      case isFalse =>
        refine bind fun a d hp => ?_
        have ha : P a := h _ _ _ hp
        refine behind fun b d => ?_
        split
        case isTrue => exact pure (by simpa)
        case isFalse =>
          refine behind fun _ d => bind fun as d hr => ?_
          have has := ih _ _ _ hr
          exact pure (List.forall_mem_cons.mpr ⟨ha, has⟩)
  exact behind fun _ _ => hg _ _

theorem untilEnd (h : ∀ c, Reads p c P) : Reads (untilEnd p) c fun as => ∀ a ∈ as, P a := by
  have hg (q fuel c) : Reads (repeatWhile.go q p fuel) c fun as => ∀ a ∈ as, P a := by
    induction fuel generalizing c
    case zero => exact pure (by simp)
    case succ fuel ih =>
      refine behind fun b d => ?_
      split
      case isTrue =>
        refine bind fun a d ha => bind fun as d has => ?_
        exact pure (List.forall_mem_cons.mpr ⟨h _ _ _ ha, ih _ _ _ has⟩)
      case isFalse => exact pure (by simp)
  exact behind fun _ _ => hg _ _ _

end Reads

variable {r : Rules} {c : Cursor} {i : CollectionPlan.TypeItem}

-- `Self` is no name that a type parameter can have.

theorem reads_typeParam : Reads (Generics.typeParam r) c (· ≠ "Self") :=
  .behind fun _ _ => .behind fun _ _ => .option fun _ => .behind fun _ _ => .option fun _ =>
    .pure Identifier.ne_Self

theorem text_of_anyWord (hn : atWord n c.input) (h : anyWord c = .ok (w, d)) : w.text = n := by
  obtain ⟨_ | ⟨⟨token, _⟩, _⟩, _, _⟩ := c
  case nil => cases h
  case cons =>
    cases token <;> cases h
    case ident => simpa [atWord, headWord?] using hn

theorem reads_param : Reads (Generics.param r) c fun name? => ∀ name ∈ name?, name ≠ "Self" := by
  refine .behind fun _ d => .behind fun b e => .choice (.behind fun _ _ => .pure (by simp)) ?_
  refine .behind fun b e => .choice (.bind fun name _ h => .pure ?_) ?_
  case refine_1 => simpa using reads_typeParam _ _ h
  refine .behind fun b e => .choice (.behind fun _ _ => .pure (by simp)) ?_
  refine .bind fun b e hb => ?_
  split
  case isFalse => exact .fail
  case isTrue h =>
    refine .bind fun w _ hw => .pure ?_
    cases hb
    simp [text_of_anyWord h hw]

theorem reads_generics : Reads (Generics.read r) c ("Self" ∉ ·) := by
  refine .behind fun b d => .choice (.pure (by simp)) ?_
  refine .bind fun params _ h => .behind fun _ _ => .pure ?_
  intro hm
  obtain ⟨_, hm, rfl⟩ := List.mem_filterMap.mp hm
  exact Reads.separated (fun _ => reads_param) _ _ h _ hm _ rfl rfl

-- What is read as an item does not redefine `Self`, if it declares a type.
def NoSelf (i? : Option CollectionPlan.TypeItem) : Prop :=
  ∀ i ∈ i?, "Self" ∉ i.typeParams

theorem noSelf_none : NoSelf none := by
  simp [NoSelf]

theorem reads_ofStruct : Reads (TypeItem.ofStruct r attrs) c (NoSelf ∘ some) := by
  refine .behind fun _ _ => .behind fun _ _ => .bind fun typeParams _ h => .behind fun _ _ => .pure ?_
  simpa [NoSelf] using reads_generics _ _ h

theorem reads_ofEnum : Reads (TypeItem.ofEnum r attrs) c (NoSelf ∘ some) := by
  refine .behind fun _ _ => .behind fun _ _ => .bind fun typeParams _ h => .behind fun _ _ =>
    .behind fun _ _ => .pure ?_
  simpa [NoSelf] using reads_generics _ _ h

theorem reads_ofType : Reads (TypeItem.ofType r place attrs) c NoSelf := by
  refine .behind fun _ _ => .behind fun _ _ => .bind fun typeParams _ h => .behind fun _ _ => ?_
  refine .option fun _ => .either fun _ _ => .behind fun _ _ => .either fun _ _ => .option fun _ => ?_
  refine .behind fun _ _ => ?_
  split
  case h_1 => exact .pure (by simpa [NoSelf] using reads_generics _ _ h)
  case h_2 => exact .pure noSelf_none

theorem reads_rest : Reads (Item.rest r attrs) c NoSelf := by
  refine .behind fun _ _ => .behind fun _ _ => .behind fun _ _ => ?_
  have hn {p : Parser Unit} {c : Cursor} : Reads (do p; return none) c NoSelf :=
    .behind fun _ _ => .pure noSelf_none
  refine .choice hn (.choice (.bind fun _ _ h => .pure (reads_ofStruct _ _ h)) ?_)
  refine .choice (.bind fun _ _ h => .pure (reads_ofEnum _ _ h)) (.choice reads_ofType ?_)
  exact .choice (.option fun _ => hn) (.choice (.option fun _ => hn) (.choice hn hn))

theorem reads_item : Reads ((Rules.ofDepth depth).item) c NoSelf := by
  cases depth
  case zero => exact .fail
  case succ => exact .behind fun _ _ => reads_rest

theorem reads_file : Reads (file (Rules.ofDepth depth)) c fun is => ∀ i? ∈ is, NoSelf i? :=
  .behind fun _ _ => .untilEnd fun _ => reads_item

-- What a whole text is read as was read by the parser.
theorem exists_of_syntaxOf {p : Rules → Parser α} (h : syntaxOf p input = .ok a) :
    ∃ d, p (Rules.ofDepth (depthFor input)) { input } = .ok (a, d) := by
  unfold syntaxOf at h
  cases hp : p (Rules.ofDepth (depthFor input)) { input }
  case error => simp [hp, Bind.bind, Except.bind] at h
  case ok ad =>
    simp only [hp, ok_bind] at h
    split at h <;> cases h
    exact ⟨_, rfl⟩

-- An item of a source text has no type parameter of the name `Self`.
theorem self_not_mem_typeParams (hg : items source = .ok is) (hi : some i ∈ is) : "Self" ∉ i.typeParams := by
  unfold items readText at hg
  split at hg
  case h_1 => cases hg
  case h_2 input _ =>
    cases hs : syntaxOf file input
    case error =>
      rw [hs] at hg
      cases hg
    case ok =>
      rw [hs] at hg
      cases hg
      have ⟨_, hp⟩ := exists_of_syntaxOf hs
      exact reads_file _ _ hp _ hi i rfl

end CollectionPlan.Grammar
