import Automation.Json.Printer
import Automation.Json.Reader
import Automation.Proofs.Entries

/-!
# What is written is read

The text of a value is cut into the tokens of the value, which are put together as the value was
written. Texts can be cut one after the other, if a word is followed by something that ends it.
-/

namespace Automation.Json

/-! ## Tokens -/

/-- A word that ends before these characters does not go on with them. -/
def Breaks (cs : List Char) : Prop := ∀ c, cs.head? = some c → isWordPart c = false

private theorem breaks_cons {c : Char} {cs : List Char} (h : isWordPart c = false) :
    Breaks (c :: cs) := by
  intro d hd
  cases hd
  exact h

private theorem tokensOnto?_made (mode : Mode) (made : List Token) (cs : List Char) :
    tokensOnto? mode made cs = (tokensOnto? mode [] cs).map (made.reverse ++ ·) := by
  induction cs generalizing mode made with
  | nil => cases h : mode.finish? <;> simp [tokensOnto?, h]
  | cons c cs ih =>
    unfold tokensOnto?
    cases mode.step? c with
    | none => rfl
    | some next =>
      obtain ⟨ts, mode'⟩ := next
      simp only
      rw [ih mode' (ts.reverse ++ made), ih mode' (ts.reverse ++ [])]
      cases tokensOnto? mode' [] cs <;> simp

private theorem tokensOnto?_word {w cs : List Char} {t : Token} (hw : wordToken? w = some t)
    (hcs : Breaks cs) : tokensOnto? (.word w) [] cs = (tokens? cs).map (t :: ·) := by
  cases cs with
  | nil => simp [tokens?, tokensOnto?, Mode.finish?, hw]
  | cons c cs =>
    have hc : isWordPart c = false := hcs c rfl
    have hstep : (Mode.word w).step? c = (begin? c).map fun x => (t :: x.1, x.2) := by
      cases hbegin : begin? c <;> simp [Mode.step?, hc, hw, hbegin]
    unfold tokens? tokensOnto?
    rw [hstep, show Mode.between.step? c = begin? c from rfl]
    cases begin? c with
    | none => rfl
    | some next =>
      obtain ⟨ts, mode⟩ := next
      simp only [Option.map_some, List.append_nil]
      rw [tokensOnto?_made mode (t :: ts).reverse, tokensOnto?_made mode ts.reverse]
      cases tokensOnto? mode [] cs <;> simp

/-- A text in front of something that ends its last word is cut as it is alone. -/
theorem tokensOnto?_append {mode : Mode} {cs rest : List Char} {ts : List Token}
    (h : tokensOnto? mode [] cs = some ts) (hrest : Breaks rest) :
    tokensOnto? mode [] (cs ++ rest) = (tokens? rest).map (ts ++ ·) := by
  induction cs generalizing mode ts with
  | nil =>
    cases mode with
    | between =>
      cases h
      simp [tokens?]
    | word w =>
      obtain ⟨t, ht, rfl⟩ : ∃ t, wordToken? w = some t ∧ [t] = ts := by
        simpa [tokensOnto?, Mode.finish?] using h
      exact tokensOnto?_word ht hrest
    | text | escape | unit => cases h
  | cons c cs ih =>
    unfold tokensOnto? at h
    rw [List.cons_append]
    unfold tokensOnto?
    cases hstep : mode.step? c with
    | none =>
      rw [hstep] at h
      cases h
    | some next =>
      obtain ⟨made, mode'⟩ := next
      rw [hstep] at h
      simp only at h ⊢
      rw [tokensOnto?_made] at h ⊢
      obtain ⟨ts', hts', rfl⟩ := Option.map_eq_some_iff.mp h
      rw [ih hts']
      cases tokens? rest <;> simp

private theorem tokens?_append {cs rest : List Char} {ts : List Token} (h : tokens? cs = some ts)
    (hrest : Breaks rest) : tokens? (cs ++ rest) = (tokens? rest).map (ts ++ ·) :=
  tokensOnto?_append h hrest

private theorem tokens?_cons {c : Char} {cs : List Char} {t : Token}
    (h : begin? c = some ([t], .between)) : tokens? (c :: cs) = (tokens? cs).map (t :: ·) := by
  unfold tokens?
  rw [tokensOnto?, show Mode.between.step? c = begin? c from rfl, h]
  exact tokensOnto?_made _ _ _

/-! ## Strings -/

/-- A string that is read so far, without a surrogate that waits. -/
def Partial.of (cs : List Char) : Partial := ⟨cs.reverse, none, true⟩

private theorem tokensOnto?_escapeChar (read : List Char) (c : Char) (cs : List Char) :
    tokensOnto? (.text (.of read)) [] (escapeChar c ++ cs) =
      tokensOnto? (.text (.of (read ++ [c]))) [] cs := by
  have hread : Partial.of (read ++ [c]) = ⟨c :: read.reverse, none, true⟩ := by simp [Partial.of]
  rw [hread]
  have hcontrol : ∀ n < 32, tokensOnto? (.text (.of read)) [] (escapeChar (Char.ofNat n) ++ cs) =
      tokensOnto? (.text ⟨Char.ofNat n :: read.reverse, none, true⟩) [] cs := by
    intro n hn
    iterate 32 rcases n with _ | n; rfl
    omega
  by_cases hlow : c.toNat < 32
  · rw [← Char.ofNat_toNat c]
    exact hcontrol _ hlow
  · by_cases hquote : c = '"'
    · subst hquote
      rfl
    · by_cases hslash : c = '\\'
      · subst hslash
        rfl
      · have hplain : escapeChar c = [c] := by
          have hquote' : c.toNat ≠ 34 := fun h => hquote (Char.toNat_inj.mp h)
          have hslash' : c.toNat ≠ 92 := fun h => hslash (Char.toNat_inj.mp h)
          unfold escapeChar
          split <;> first | omega | exact if_neg hlow
        have hstep : (Mode.text (.of read)).step? c =
            some ([], .text ⟨c :: read.reverse, none, true⟩) := by
          simp [Mode.step?, hquote, hslash, hlow, Partial.of, Partial.push, Partial.settle]
        rw [hplain, List.singleton_append, tokensOnto?, hstep]
        rfl

private theorem tokensOnto?_text (read cs rest : List Char) :
    tokensOnto? (.text (.of read)) [] (cs.flatMap escapeChar ++ '"' :: rest) =
      (tokens? rest).map (.atom (.string (some (String.ofList (read ++ cs)))) :: ·) := by
  induction cs generalizing read with
  | nil =>
    rw [List.flatMap_nil, List.nil_append, List.append_nil]
    have hstep : (Mode.text (.of read)).step? '"' =
        some ([.atom (.string (some (String.ofList read)))], .between) := by
      simp [Mode.step?, Partial.of, Partial.text?, Partial.settle]
    rw [tokensOnto?, hstep]
    exact tokensOnto?_made _ _ _
  | cons c cs ih =>
    rw [List.flatMap_cons, List.append_assoc, tokensOnto?_escapeChar, ih, List.append_assoc]
    rfl

private theorem tokens?_quote (s : String) (rest : List Char) :
    tokens? ((quote s).toList ++ rest) = (tokens? rest).map (.atom (.string (some s)) :: ·) := by
  have htext := tokensOnto?_text [] s.toList rest
  rw [List.nil_append, String.ofList_toList] at htext
  rw [← htext]
  simp only [quote, String.toList_ofList, List.cons_append, List.append_assoc]
  rfl

/-! ## Values -/

/-- The text of the number is the token that stands for the number. -/
def Number.Legible (n : Number) : Prop :=
  tokens? n.render.toList = some [.atom (.number (some n))]

mutual

/-- All numbers in the value are read as they are written. -/
def Value.Legible : Value → Prop
  | .number n => n.Legible
  | .array items => Value.LegibleItems items
  | .object members => Value.LegibleMembers members
  | _ => True

def Value.LegibleItems : List Value → Prop
  | [] => True
  | v :: rest => v.Legible ∧ Value.LegibleItems rest

def Value.LegibleMembers : List (String × Value) → Prop
  | [] => True
  | (_, v) :: rest => v.Legible ∧ Value.LegibleMembers rest

end

private theorem Value.legibleItems_iff {items : List Value} :
    Value.LegibleItems items ↔ ∀ v ∈ items, v.Legible := by
  induction items with
  | nil => simp [LegibleItems]
  | cons v rest ih => simp [LegibleItems, ih]

theorem Value.legibleMembers_iff {members : List (String × Value)} :
    Value.LegibleMembers members ↔ ∀ p ∈ members, p.2.Legible := by
  induction members with
  | nil => simp [LegibleMembers]
  | cons p rest ih => simp [LegibleMembers, ih]

@[simp] theorem Value.legible_string (s : String) : (Value.string s).Legible := trivial

@[simp] theorem Value.legible_bool (b : Bool) : (Value.bool b).Legible := trivial

@[simp] theorem Value.legible_text? (s : Option String) : (Value.text? s).Legible := by
  cases s <;> trivial

theorem Value.legible_array {α : Type} {items : List α} {write : α → Value}
    (h : ∀ x ∈ items, (write x).Legible) : (Value.array (items.map write)).Legible := by
  refine legibleItems_iff.mpr fun v hv => ?_
  obtain ⟨x, hx, rfl⟩ := List.mem_map.mp hv
  exact h x hx

@[simp] theorem Value.legible_strings (items : List String) : (Value.strings items).Legible :=
  legible_array fun s _ => legible_string s

theorem Value.legible_entries {α : Type} {m : Entries α} {write : α → Value}
    (h : ∀ p ∈ m, (write p.2).Legible) : (Value.object (m.mapValues write)).Legible := by
  refine legibleMembers_iff.mpr fun q hq => ?_
  obtain ⟨p, hp, rfl⟩ := List.mem_map.mp hq
  exact h p hp

theorem Value.legible_record {members : List (String × Value)} (h : ∀ p ∈ members, p.2.Legible) :
    (Value.record members).Legible :=
  legibleMembers_iff.mpr fun p hp => h p (Entries.mem_of_mem_ofList hp)

mutual

/-- The tokens of the text of a value. -/
def Value.tokens : Value → List Token
  | .array items => .openArray :: (Value.itemTokens items ++ [.closeArray])
  | .object members => .openObject :: (Value.memberTokens members ++ [.closeObject])
  | v => [.atom v.source]

def Value.itemTokens : List Value → List Token
  | [] => []
  | v :: [] => v.tokens
  | v :: w :: rest => v.tokens ++ .comma :: Value.itemTokens (w :: rest)

def Value.memberTokens : List (String × Value) → List Token
  | [] => []
  | (k, v) :: [] => .atom (.string (some k)) :: .colon :: v.tokens
  | (k, v) :: entry :: rest =>
    .atom (.string (some k)) :: .colon :: (v.tokens ++ .comma :: Value.memberTokens (entry :: rest))

end

mutual

theorem Value.tokens?_render (v : Value) (h : v.Legible) :
    tokens? v.render.toList = some v.tokens := by
  cases v with
  | null => rfl
  | bool b => cases b <;> rfl
  | number n => exact h
  | string s => simpa [Value.render, Value.tokens, Value.source, tokens?, tokensOnto?, Mode.finish?]
      using tokens?_quote s []
  | array items =>
    have hitems := tokens?_renderItems items h
    have hclose : tokens? [']'] = some [.closeArray] := rfl
    rw [Value.render, String.toList_append, String.toList_append, List.append_assoc]
    rw [show "[".toList = ['['] from rfl, List.singleton_append, tokens?_cons rfl,
      show "]".toList = [']'] from rfl, tokens?_append hitems (breaks_cons rfl), hclose]
    rfl
  | object members =>
    have hmembers := tokens?_renderMembers members h
    have hclose : tokens? ['\x7d'] = some [.closeObject] := rfl
    rw [Value.render, String.toList_append, String.toList_append, List.append_assoc]
    rw [show "\x7b".toList = ['\x7b'] from rfl, List.singleton_append, tokens?_cons rfl,
      show "\x7d".toList = ['\x7d'] from rfl, tokens?_append hmembers (breaks_cons rfl), hclose]
    rfl

theorem Value.tokens?_renderItems (items : List Value) (h : Value.LegibleItems items) :
    tokens? (Value.renderItems items).toList = some (Value.itemTokens items) := by
  match items with
  | [] => rfl
  | v :: [] => exact tokens?_render v h.1
  | v :: w :: rest =>
    have hv := tokens?_render v h.1
    have hrest := tokens?_renderItems (w :: rest) h.2
    rw [Value.renderItems, String.toList_append, String.toList_append, List.append_assoc]
    rw [show ",".toList = [','] from rfl, List.singleton_append,
      tokens?_append hv (breaks_cons rfl), tokens?_cons rfl, hrest]
    rfl

theorem Value.tokens?_renderMembers (members : List (String × Value))
    (h : Value.LegibleMembers members) :
    tokens? (Value.renderMembers members).toList = some (Value.memberTokens members) := by
  match members with
  | [] => rfl
  | (k, v) :: [] =>
    have hv := tokens?_render v h.1
    rw [Value.renderMembers, String.toList_append, String.toList_append, List.append_assoc]
    rw [tokens?_quote, show ":".toList = [':'] from rfl, List.singleton_append, tokens?_cons rfl,
      hv]
    rfl
  | (k, v) :: entry :: rest =>
    have hv := tokens?_render v h.1
    have hrest := tokens?_renderMembers (entry :: rest) h.2
    simp only [Value.renderMembers, String.toList_append, List.append_assoc]
    rw [tokens?_quote, show ":".toList = [':'] from rfl, List.singleton_append, tokens?_cons rfl,
      show ",".toList = [','] from rfl, List.singleton_append,
      tokens?_append hv (breaks_cons rfl), tokens?_cons rfl, hrest]
    rfl

end

/-! ## Putting the tokens together -/

/-- A value may come next. -/
def Expect.Opens (e : Expect) : Prop := e = .value ∨ e = .valueOrClose

section Build

variable {stack : List Frame} {e : Expect} {rest : List Token}

private theorem build?_atom (he : e.Opens) (s : Source) :
    build? (.building stack e) (.atom s :: rest) = build? (.place stack s) rest := by
  rcases he with rfl | rfl <;> rfl

private theorem build?_openArray (he : e.Opens) : build? (.building stack e) (.openArray :: rest) =
    build? (.building (.array [] :: stack) .valueOrClose) rest := by
  rcases he with rfl | rfl <;> rfl

private theorem build?_openObject (he : e.Opens) :
    build? (.building stack e) (.openObject :: rest) =
    build? (.building (.object [] none :: stack) .nameOrClose) rest := by
  rcases he with rfl | rfl <;> rfl

private theorem build?_name {made : List (Option String × Source)}
    (he : e = .name ∨ e = .nameOrClose) (k : String) :
    build? (.building (.object made none :: stack) e) (.atom (.string (some k)) :: .colon :: rest) =
      build? (.building (.object made (some k) :: stack) .value) rest := by
  rcases he with rfl | rfl <;> rfl

private theorem build?_closeArray (made : List Source) (s : Source) :
    build? (.place (.array made :: stack) s) (.closeArray :: rest) =
      build? (.place stack (.array (made.reverse ++ [s]))) rest := by
  rw [← List.reverse_cons]
  rfl

private theorem build?_closeObject (made : List (Option String × Source)) (name : Option String)
    (s : Source) :
    build? (.place (.object made name :: stack) s) (.closeObject :: rest) =
      build? (.place stack (.object (made.reverse ++ [(name, s)]))) rest := by
  rw [← List.reverse_cons]
  rfl

end Build

mutual

/-- The tokens of a value are put together as the value is written. -/
theorem Value.build?_tokens (v : Value) {stack : List Frame} {e : Expect} {rest : List Token}
    (he : e.Opens) :
    build? (.building stack e) (v.tokens ++ rest) = build? (.place stack v.source) rest := by
  cases v with
  | null | bool | number | string => exact build?_atom he _
  | array items =>
    rw [Value.tokens, List.cons_append, List.append_assoc, build?_openArray he]
    cases items with
    | nil => rfl
    | cons v items => exact build?_itemTokens (v :: items) (List.cons_ne_nil _ _) [] (.inr rfl)
  | object members =>
    rw [Value.tokens, List.cons_append, List.append_assoc, build?_openObject he]
    cases members with
    | nil => rfl
    | cons entry members =>
      exact build?_memberTokens (entry :: members) (List.cons_ne_nil _ _) [] (.inr rfl)

theorem Value.build?_itemTokens (items : List Value) (hne : items ≠ []) {stack : List Frame}
    {e : Expect} {rest : List Token} (made : List Source) (he : e.Opens) :
    build? (.building (.array made :: stack) e) (Value.itemTokens items ++ .closeArray :: rest) =
      build? (.place stack (.array (made.reverse ++ Value.sources items))) rest := by
  match items with
  | [] => exact absurd rfl hne
  | v :: [] =>
    rw [Value.itemTokens, build?_tokens v he, build?_closeArray]
    rfl
  | v :: w :: items =>
    rw [Value.itemTokens, List.append_assoc, build?_tokens v he, List.cons_append]
    -- behind the comma the next item may begin
    refine (build?_itemTokens (w :: items) (List.cons_ne_nil _ _) (v.source :: made)
      (.inl rfl)).trans ?_
    rw [List.reverse_cons, List.append_assoc]
    rfl

theorem Value.build?_memberTokens (members : List (String × Value)) (hne : members ≠ [])
    {stack : List Frame} {e : Expect} {rest : List Token} (made : List (Option String × Source))
    (he : e = .name ∨ e = .nameOrClose) :
    build? (.building (.object made none :: stack) e)
        (Value.memberTokens members ++ .closeObject :: rest) =
      build? (.place stack (.object (made.reverse ++ Value.memberSources members))) rest := by
  match members with
  | [] => exact absurd rfl hne
  | (k, v) :: [] =>
    rw [Value.memberTokens, List.cons_append, List.cons_append, build?_name he,
      build?_tokens v (.inl rfl), build?_closeObject]
    rfl
  | (k, v) :: entry :: members =>
    rw [Value.memberTokens, List.cons_append, List.cons_append, build?_name he, List.append_assoc,
      build?_tokens v (.inl rfl), List.cons_append]
    refine (build?_memberTokens (entry :: members) (List.cons_ne_nil _ _)
      ((some k, v.source) :: made) (.inl rfl)).trans ?_
    rw [List.reverse_cons, List.append_assoc]
    rfl

end

/-- The text of a value is read as the value is written. -/
theorem Source.read?_render {v : Value} (h : v.Legible) :
    Source.read? v.render = some v.source := by
  have hbuild : build? (.building [] .value) (v.tokens ++ []) = some v.source :=
    v.build?_tokens (.inl rfl)
  rw [List.append_nil] at hbuild
  rw [Source.read?, v.tokens?_render h]
  exact hbuild

end Automation.Json
