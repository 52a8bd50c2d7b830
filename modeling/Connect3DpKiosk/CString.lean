import Mathlib.Data.List.Infix

/-! # C strings

    The OD-1 kiosk firmware handles every piece of text as a C string: the
    bytes a `const char*` points at, before the terminating NUL. ArduinoJson
    hands out string members that way, `strstr`, `strcmp` and `snprintf` read
    and write them, and the Arduino `String`s of `MachineState` are copied
    from them.

    A C string is modelled by its bytes, with the absence of NUL as a field,
    so that no `CStr` holds a byte the C code would never see. Literals of the
    source enter the model through `lit`, arbitrary text (payloads, machine
    ids, member values) as `CStr`s.
-/

namespace Connect3DpKiosk

/-! ## Bytes and C strings -/

/-- The bytes of a source literal such as `"machine/"`, as the compiler lays
    them out. -/
def lit (s : String) : List UInt8 := s.toUTF8.data.toList

/-- A C string: the bytes before the terminating NUL. -/
structure CStr where
  /-- The bytes up to, and not including, the terminator. -/
  bytes : List UInt8
  /-- The terminator is the first NUL. -/
  no_nul : (0 : UInt8) ∉ bytes
  deriving DecidableEq, Repr

/-- `p ? p : d` for a `const char* p` that may be null, as the bytes an
    Arduino `String` receives from it. -/
def cstrOr : Option CStr → List UInt8 → List UInt8
  | some s, _ => s.bytes
  | none, d => d

@[simp] theorem cstrOr_some (s : CStr) (d : List UInt8) : cstrOr (some s) d = s.bytes := rfl

@[simp] theorem cstrOr_none (d : List UInt8) : cstrOr none d = d := rfl

@[simp] theorem cstrOr_cstrOr (p : Option CStr) (d : List UInt8) :
    cstrOr p (cstrOr p d) = cstrOr p d := by
  cases p <;> rfl

/-! ## `<string.h>` and `<stdio.h>` -/

/-- `strstr(hay, needle) != NULL`: the needle occurs somewhere in `hay`. -/
def strstr (hay : CStr) (needle : List UInt8) : Bool := decide (needle <:+: hay.bytes)

/-- `sizeof` of a string literal: its bytes and the terminator. -/
def sizeofLit (s : CStr) : Nat := s.bytes.length + 1

/-- `snprintf(buf, size, ...)` of the formatted bytes `text`: at most
    `size - 1` of them reach the buffer, and a NUL closes it. -/
def snprintf (size : Nat) (text : List UInt8) : List UInt8 := text.take (size - 1)

/-- A text shorter than the buffer is written whole. -/
theorem snprintf_of_lt {size : Nat} {text : List UInt8} (h : text.length < size) :
    snprintf size text = text :=
  List.take_of_length_le (by omega)

/-! ## Occurrences across a separator

    `strstr` on a list of flags joined by `", "` finds a keyword exactly when
    one of the flags holds it, provided the keyword has neither a comma nor a
    blank: no occurrence can then reach over a separator. -/

section separator
variable {α : Type} {c : α} {n y : List α}

/-- A prefix of `x ++ c :: y` that avoids `c` is a prefix of `x`. -/
theorem prefix_of_prefix_append_cons (hc : c ∉ n) :
    ∀ {x : List α}, n <+: x ++ c :: y → n <+: x := by
  induction n with
  | nil => exact fun _ => List.nil_prefix
  | cons d n ih =>
    intro x h
    cases x with
    | nil => exact absurd (List.cons_prefix_cons.1 h).1 (fun e => hc (e ▸ List.mem_cons_self _ _))
    | cons a x =>
      obtain ⟨rfl, hx⟩ := List.cons_prefix_cons.1 h
      exact List.cons_prefix_cons.2 ⟨rfl, ih (fun m => hc (List.mem_cons_of_mem _ m)) hx⟩

/-- An infix of `x ++ c :: y` that avoids `c` lies in `x` or in `y`. -/
theorem infix_append_cons (hc : c ∉ n) :
    ∀ {x : List α}, n <:+: x ++ c :: y → n <:+: x ∨ n <:+: y
  | [], h => (List.infix_cons_iff.1 h).imp
      (fun hp => by simpa using prefix_of_prefix_append_cons (x := []) hc hp) id
  | a :: x, h => by
    rcases List.infix_cons_iff.1 h with hp | hi
    · exact .inl (prefix_of_prefix_append_cons (x := a :: x) hc hp).isInfix
    · exact (infix_append_cons hc hi).imp List.infix_cons id

end separator

end Connect3DpKiosk
