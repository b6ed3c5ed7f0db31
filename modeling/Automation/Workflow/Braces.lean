import Automation.Text.Basic

/-!
# Braced parts of a text

A text falls into plain parts and parts between two opening and the next two closing braces. Opening
braces that are never closed are plain. Placing the parts side by side gives the text back, and each
part knows its place by the parts before it.
-/

namespace Automation

/-- A part of a text. -/
inductive Piece where
  /-- Outside of braces. -/
  | plain (chars : List Char)
  /-- What stands between the opening and the closing braces. -/
  | braced (inner : List Char)
deriving DecidableEq, Repr

namespace Piece

def opening : List Char := ['\x7b', '\x7b']

def closing : List Char := ['\x7d', '\x7d']

/-- The characters of the part, braces included. -/
def chars : Piece → List Char
  | plain cs => cs
  | braced inner => opening ++ inner ++ closing

def join (ps : List Piece) : List Char := ps.flatMap chars

/-- The first braced part with what stands before and behind it. -/
def first? (cs : List Char) : Option (List Char × List Char × List Char) := do
  let (before, rest) ← Text.cutAt opening cs
  let (inner, after) ← Text.cutAt closing rest
  return (before, inner, after)

end Piece

theorem Text.eq_append_of_dropLead? {lead cs rest : List Char}
    (h : Text.dropLead? lead cs = some rest) :
    cs = lead ++ rest := by
  induction lead generalizing cs with
  | nil => simpa [Text.dropLead?] using h
  | cons l lead ih =>
    cases cs with
    | nil => simp [Text.dropLead?] at h
    | cons c cs =>
      by_cases hc : l = c
      · simp only [Text.dropLead?, hc, if_true] at h
        simp [hc, ih h]
      · simp [Text.dropLead?, hc] at h

theorem Text.eq_append_of_cutAt {mark cs before rest : List Char}
    (h : Text.cutAt mark cs = some (before, rest)) : cs = before ++ mark ++ rest := by
  induction cs generalizing before rest with
  | nil =>
    unfold Text.cutAt at h
    split at h
    · simp_all
    · simp at h
  | cons c cs ih =>
    unfold Text.cutAt at h
    split at h
    · next r hr =>
      simp only [Option.some.injEq, Prod.mk.injEq] at h
      obtain ⟨rfl, rfl⟩ := h
      simpa using Text.eq_append_of_dropLead? hr
    · simp only [Option.map_eq_some_iff, Prod.exists, Prod.mk.injEq] at h
      obtain ⟨l, r, hc, rfl, rfl⟩ := h
      simp [ih hc]

theorem Piece.eq_of_first? {cs before inner after : List Char}
    (h : Piece.first? cs = some (before, inner, after)) :
    cs = before ++ Piece.opening ++ inner ++ Piece.closing ++ after := by
  simp only [Piece.first?, Option.bind_eq_bind, Option.bind_eq_some_iff, Prod.exists,
    Option.pure_def, Option.some.injEq, Prod.mk.injEq] at h
  obtain ⟨b, r, hb, i, a, hi, rfl, rfl, rfl⟩ := h
  simp [Text.eq_append_of_cutAt hb, Text.eq_append_of_cutAt hi]

/-- The parts of a text, in order. -/
def Piece.ofChars (cs : List Char) : List Piece :=
  match _h : Piece.first? cs with
  | none => [.plain cs]
  | some (before, inner, after) => .plain before :: .braced inner :: Piece.ofChars after
termination_by cs.length
decreasing_by
  have := congrArg List.length (Piece.eq_of_first? _h)
  simp [Piece.opening] at this
  omega

/-- A part with the place of its first byte and of the byte behind its last. -/
structure Piece.Placed where
  start : Nat
  stop : Nat
  piece : Piece

/-- The parts with their places in bytes, the first of them at `start`. -/
def Piece.place (start : Nat) : List Piece → List Piece.Placed
  | [] => []
  | p :: ps =>
    let stop := start + Text.byteSize p.chars
    ⟨start, stop, p⟩ :: Piece.place stop ps

end Automation
