import Mathlib.Data.List.Basic
import TiMcu.Lib.Words

/-!
# Strings in arrays

An array of bytes holds a string when the string and a NUL stand at its front.  `snprintf` of a text that has been
formatted already and `strncat` store into arrays of a known size; a store outside of the array is `none`.
-/

namespace CString

variable {buf dst src cs a b text : List UInt8} {i n size : Nat}

/-- The string at a pointer. -/
def stringAt (mem : List UInt8) (p : Nat) : List UInt8 := Words.word (· == 0) mem p

/-- The string is at the front of the array. -/
def Holds (buf cs : List UInt8) : Prop := 0 ∉ cs ∧ ∃ rest, buf = cs ++ 0 :: rest

/-- `memcpy` into an array. -/
def putAll (buf : List UInt8) (i : Nat) (bs : List UInt8) : Option (List UInt8) :=
  if i + bs.length ≤ buf.length then some (buf.take i ++ bs ++ buf.drop (i + bs.length)) else none

/-- `strlen`, for an array with a NUL. -/
def strlen (buf : List UInt8) : Option Nat := if 0 ∈ buf then some (stringAt buf 0).length else none

/-- `snprintf` of a text to an array; `size` is its second argument. -/
def snprintf (buf : List UInt8) (size : Nat) (text : List UInt8) : Option (List UInt8) :=
  if 0 < size then putAll buf 0 (text.take (size - 1) ++ [0]) else some buf

/-- `strncat`; `n` bounds what is taken of the source, not the result. -/
def strncat (dst src : List UInt8) (n : Nat) : Option (List UInt8) :=
  (strlen dst).bind fun i => putAll dst i ((stringAt src 0).take n ++ [0])

theorem Holds.stringAt (h : Holds buf cs) : CString.stringAt buf 0 = cs := by
  obtain ⟨hcs, rest, rfl⟩ := h
  have hne : ∀ c ∈ cs, (!(c == 0)) = true := by
    intro c hc
    have : c ≠ 0 := fun h0 => hcs (h0 ▸ hc)
    simpa using this
  rw [CString.stringAt, Words.word, List.drop_zero, List.takeWhile_append_of_pos hne, List.takeWhile_cons]
  simp

theorem Holds.strlen (h : Holds buf cs) : CString.strlen buf = some cs.length := by
  have hmem : 0 ∈ buf := by
    obtain ⟨-, rest, rfl⟩ := h
    simp
  rw [CString.strlen, if_pos hmem, h.stringAt]

/-- The string with its NUL. -/
theorem Holds.take (h : Holds buf cs) : buf.take (cs.length + 1) = cs ++ [0] := by
  obtain ⟨-, rest, rfl⟩ := h
  rw [List.take_length_add_append]
  rfl

theorem putAll_of_le (bs : List UInt8) (h : i + bs.length ≤ buf.length) :
    putAll buf i bs = some (buf.take i ++ bs ++ buf.drop (i + bs.length)) := if_pos h

theorem length_of_putAll (h : putAll buf i cs = some dst) : dst.length = buf.length := by
  unfold putAll at h
  split at h
  · next hle =>
    rw [← Option.some.inj h]
    simp only [List.length_append, List.length_take, List.length_drop]
    omega
  · exact absurd h (by simp)

theorem holds_nil (h : 0 < n) : Holds (List.replicate n 0) [] := by
  obtain ⟨n, rfl⟩ := Nat.exists_eq_add_of_lt h
  exact ⟨by simp, List.replicate n 0, by rw [Nat.zero_add]; rfl⟩

/-- The text is cut where the array ends. -/
theorem snprintf_spec (htext : 0 ∉ text) (hpos : 0 < size) (hsize : size ≤ buf.length) :
    ∃ buf', snprintf buf size text = some buf' ∧ Holds buf' (text.take (size - 1)) ∧ buf'.length = buf.length := by
  have hroom : 0 + (text.take (size - 1) ++ [0]).length ≤ buf.length := by
    simp only [List.length_append, List.length_take, List.length_singleton]
    omega
  have hput := putAll_of_le _ hroom
  refine ⟨_, (if_pos hpos).trans hput, ?_, length_of_putAll hput⟩
  refine ⟨fun h => htext (List.mem_of_mem_take h), buf.drop (0 + (text.take (size - 1) ++ [0]).length), ?_⟩
  rw [List.take_zero, List.nil_append, List.append_assoc]
  rfl

theorem strncat_eq (hdst : Holds dst a) (hsrc : Holds src b) (hn : b.length ≤ n) :
    strncat dst src n = putAll dst a.length (b ++ [0]) := by
  rw [strncat, hdst.strlen, Option.bind_some, hsrc.stringAt, List.take_of_length_le hn]

/-- The source is appended where there is room for it with its NUL. -/
theorem strncat_of_lt (hdst : Holds dst a) (hsrc : Holds src b) (hn : b.length ≤ n)
    (hroom : a.length + b.length < dst.length) :
    ∃ dst', strncat dst src n = some dst' ∧ Holds dst' (a ++ b) ∧ dst'.length = dst.length := by
  have hlen : (b ++ [0]).length = b.length + 1 := List.length_append
  have hput := putAll_of_le (b ++ [0]) (by omega : a.length + (b ++ [0]).length ≤ dst.length)
  refine ⟨_, (strncat_eq hdst hsrc hn).trans hput, ⟨?_, dst.drop (a.length + (b ++ [0]).length), ?_⟩,
    length_of_putAll hput⟩
  · rw [List.mem_append]
    rintro (h | h)
    · exact hdst.1 h
    · exact hsrc.1 h
  · obtain ⟨-, rest, rfl⟩ := hdst
    rw [List.take_left]
    simp

/-- Otherwise bytes are stored outside. -/
theorem strncat_of_ge (hdst : Holds dst a) (hsrc : Holds src b) (hn : b.length ≤ n)
    (hroom : dst.length ≤ a.length + b.length) : strncat dst src n = none := by
  have hlen : (b ++ [0]).length = b.length + 1 := List.length_append
  rw [strncat_eq hdst hsrc hn, putAll, if_neg (by omega)]

end CString
