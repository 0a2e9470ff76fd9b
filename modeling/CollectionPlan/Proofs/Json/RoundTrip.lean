import CollectionPlan.Json
import CollectionPlan.Proofs.Json.Reader

namespace CollectionPlan

theorem Text.digit?_hexDigit (h : n < 16) : digit? 16 (hexDigit n) = some n := by
  have hd : ∀ n < 16, digit? 16 (hexDigit n) = some n := by decide
  exact hd n h

namespace Json

variable {r r₁ r₂ : Reader} {p p₁ : Phase} {c : Char} {cs cs₁ cs₂ read : List Char} {s : String}
  {depth : Nat} {d d₁ d₂ : Document} {fs : List (String × Document)} {stack : List Frame}

-- A character is written by a letter, by its code or as it is.
theorem escapeChar_cases (c : Char) :
    (∃ l, unescape? l = some c ∧ escapeChar c = ['\\', l]) ∨
    (c.toNat < 0x20 ∧ escapeChar c = escapeCode c) ∨
    (c ≠ '"' ∧ c ≠ '\\' ∧ ¬c.toNat < 0x20 ∧ escapeChar c = [c]) := by
  fun_cases escapeChar c
  case case8 h => exact .inr <| .inl ⟨h, rfl⟩
  case case9 hq hb _ _ _ _ _ h => exact .inr <| .inr ⟨hq, hb, h, rfl⟩
  all_goals
    rename_i h
    subst h
    exact .inl ⟨_, rfl, rfl⟩

-- The digits of a control character are those of its code.
theorem ofCode?_digits (h : c.toNat < 0x20) :
    ofCode? ['0', '0', Text.hexDigit (c.toNat / 16), Text.hexDigit (c.toNat % 16)] = some c := by
  have hh : Text.digit? 16 (Text.hexDigit (c.toNat / 16)) = some (c.toNat / 16) :=
    Text.digit?_hexDigit (by omega)
  have hl : Text.digit? 16 (Text.hexDigit (c.toNat % 16)) = some (c.toNat % 16) :=
    Text.digit?_hexDigit (by omega)
  have h0 : Text.digit? 16 '0' = some 0 := by decide
  have hn : Text.value? 16
      ['0', '0', Text.hexDigit (c.toNat / 16), Text.hexDigit (c.toNat % 16)] = some c.toNat := by
    simp [Text.value?, Text.ofDigits, h0, hh, hl]
    omega
  have hv : c.toNat.isValidChar := c.valid
  simp [ofCode?, hn, hv, Char.ofNat_toNat]

namespace Reader

-- Reading a text leads from one state to another one.
def Reads (r : Reader) (cs : List Char) (r' : Reader) : Prop :=
  r.run cs = some r'

namespace Reads

theorem nil : r.Reads [] r :=
  rfl

theorem append (h₁ : r.Reads cs₁ r₁) (h₂ : r₁.Reads cs₂ r₂) : r.Reads (cs₁ ++ cs₂) r₂ := by
  rw [Reads, run, List.foldlM_append, ←run, h₁]
  exact h₂

theorem cons (h₁ : r.step c = some r₁) (h₂ : r₁.Reads cs r₂) : r.Reads (c :: cs) r₂ := by
  rw [Reads, run, List.foldlM_cons, h₁]
  exact h₂

theorem single (h : r.step c = some r₁) : r.Reads [c] r₁ :=
  cons h nil

end Reads

theorem reads_blank (h : ∀ c ∈ cs, isBlank c) : Reads ⟨.outside, p⟩ cs ⟨.outside, p⟩ := by
  induction cs
  case nil => exact .nil
  case cons c cs ih =>
    have hc : step ⟨.outside, p⟩ c = some ⟨.outside, p⟩ := if_pos (h c <| List.mem_cons_self ..)
    exact .cons hc (ih fun d hd => h d <| List.mem_cons_of_mem _ hd)

theorem reads_newline : Reads ⟨.outside, p⟩ (newline depth) ⟨.outside, p⟩ := by
  refine reads_blank fun c hc => ?_
  rcases List.mem_cons.mp hc with rfl | hc
  · decide
  · exact List.eq_of_mem_replicate hc ▸ (by decide)

theorem reads_escapeChar : Reads ⟨.text read, p⟩ (escapeChar c) ⟨.text (read ++ [c]), p⟩ := by
  rcases escapeChar_cases c with ⟨l, hl, he⟩ | ⟨hc, he⟩ | ⟨hq, hb, hc, he⟩
  -- The letter of a code stands for no character itself.
  · have hu : l ≠ 'u' := by
      rintro rfl
      cases hl
    have hs : step ⟨.escape read, p⟩ l = some ⟨.text (read ++ [c]), p⟩ := by
      simp [step, stepEscape, hu, hl]
    exact he ▸ .cons rfl (.single hs)
  · have hs : step ⟨.code read ['0', '0', Text.hexDigit (c.toNat / 16)], p⟩
        (Text.hexDigit (c.toNat % 16)) = some ⟨.text (read ++ [c]), p⟩ := by
      simp [step, stepCode, ofCode?_digits hc]
    exact he ▸ .cons rfl (.cons rfl (.cons rfl (.cons rfl (.cons rfl (.single hs)))))
  · have hs : step ⟨.text read, p⟩ c = some ⟨.text (read ++ [c]), p⟩ := by
      simp [step, stepText, hq, hb, hc]
    exact he ▸ .single hs

theorem reads_characters :
    Reads ⟨.text read, p⟩ (cs.flatMap escapeChar) ⟨.text (read ++ cs), p⟩ := by
  induction cs generalizing read
  case nil => simpa using Reads.nil
  case cons c cs ih =>
    rw [List.flatMap_cons]
    simpa using reads_escapeChar.append (@ih (read ++ [c]))

-- A text is read as one token, whatever its characters are.
theorem reads_quoted (h : p.accept (.text s) = some p₁) :
    Reads ⟨.outside, p⟩ (quoted s) ⟨.outside, p₁⟩ := by
  have he : step ⟨.text s.toList, p⟩ '"' = some ⟨.outside, p₁⟩ := by
    simp [step, stepText, emit, h]
  exact .cons rfl (reads_characters.append (.single he))

theorem reads_flag {b : Bool} :
    Reads ⟨.outside, .value stack⟩ (if b then "true" else "false").toList
      ⟨.outside, .done (.flag b) stack⟩ := by
  cases b <;> rfl

theorem reads_text : Reads ⟨.outside, .value stack⟩ (quoted s) ⟨.outside, .done (.text s) stack⟩ :=
  reads_quoted rfl

-- A key, with the value that is due behind it.
theorem reads_key {k : String}
    (h : Reads ⟨.outside, .value (.field fs k :: stack)⟩ cs r) :
    Reads ⟨.outside, .key fs stack⟩ (quoted k ++ ':' :: ' ' :: cs) r := by
  have hk : (Phase.key fs stack).accept (.text k) = some (.colon fs k stack) := by cases fs <;> rfl
  have hb : Reads ⟨.outside, .value (.field fs k :: stack)⟩ (' ' :: cs) r := .cons rfl h
  have hc : Reads ⟨.outside, .colon fs k stack⟩ (':' :: ' ' :: cs) r := .cons rfl hb
  exact (reads_quoted hk).append hc

mutual

-- What is written for a document is read as this document wherever a value is due.
theorem reads_value (d : Document) (depth : Nat) (stack : List Frame) :
    Reads ⟨.outside, .value stack⟩ (value depth d) ⟨.outside, .done d stack⟩ := by
  match d with
  | .flag b    => exact reads_flag
  | .text s    => exact reads_text
  | .list []   => exact .cons rfl (.single rfl)
  | .record [] => exact .cons rfl (.single rfl)
  | .list (d :: ds) =>
    have hd := reads_value d (depth + 1) (.items [] :: stack)
    have hs := hd.append (reads_items ds (depth + 1) depth)
    simpa [value] using Reads.cons rfl (reads_newline.append hs)
  | .record ((k, d) :: fs) =>
    have hd := reads_value d (depth + 1) (.field [] k :: stack)
    have hs := reads_key (hd.append (reads_fields fs (depth + 1) depth))
    simpa [value] using Reads.cons rfl (reads_newline.append hs)

-- The items behind the first one, up to the end of their list.
theorem reads_items (ds : List Document) (depth outer : Nat) {d : Document} {es : List Document}
    {stack : List Frame} :
    Reads ⟨.outside, .done d (.items es :: stack)⟩ (items depth ds ++ (newline outer ++ [']']))
      ⟨.outside, .done (.list (es ++ d :: ds)) stack⟩ := by
  match ds with
  | []      => simpa [items] using reads_newline.append (.single rfl)
  | e :: ds =>
    have he := reads_value e depth (.items (es ++ [d]) :: stack)
    have hs := he.append (reads_items ds depth outer)
    simpa [items] using Reads.cons rfl (reads_newline.append hs)

-- The fields behind the first one, up to the end of their record.
theorem reads_fields (fs : List (String × Document)) (depth outer : Nat) {k : String}
    {d : Document} {gs : List (String × Document)} {stack : List Frame} :
    Reads ⟨.outside, .done d (.field gs k :: stack)⟩
      (fields depth fs ++ (newline outer ++ ['\x7d']))
      ⟨.outside, .done (.record (gs ++ (k, d) :: fs)) stack⟩ := by
  match fs with
  | []           => simpa [fields] using reads_newline.append (.single rfl)
  | (l, e) :: fs =>
    have he := reads_value e depth (.field (gs ++ [(k, d)]) l :: stack)
    have hs := reads_key (he.append (reads_fields fs depth outer))
    simpa [fields] using Reads.cons rfl (reads_newline.append hs)

end

end Reader

theorem read?_value : read? (String.ofList (value depth d)) = some d := by
  have h := Reader.reads_value d depth []
  rw [Reader.Reads] at h
  simp [read?, h, Reader.result?]

-- Other layouts are read as well, and what is no document is not.
example : read? "[\"\\u0007\\n\", false]" = some (.list [.text "\x07\n", .flag false]) :=
  rfl

example : read? "[true,]" = none :=
  rfl

theorem value_record {k : String} :
    ∃ inside, value depth (.record ((k, d) :: fs)) = '\x7b' :: inside ++ ['\x7d'] := by
  rw [value]
  exact ⟨_, rfl⟩

theorem render_eq : render d = String.ofList (value 0 d) ++ "\n" := by
  simp [render]

-- Different documents are written differently.
theorem render_eq_iff : render d₁ = render d₂ ↔ d₁ = d₂ where
  mpr h := h ▸ rfl
  mp h  := by
    have hv : String.ofList (value 0 d₁) = String.ofList (value 0 d₂) := by
      simpa [render] using h
    have hr : read? (String.ofList (value 0 d₁)) = some d₂ := by rw [hv, read?_value]
    exact Option.some.inj <| read?_value.symm.trans hr

end Json
end CollectionPlan
