import PathSpace.Text.Segments
import PathSpace.Text.Utf8
import PathSpace.Fault.Error
/-! # Paths

A path names one place in the space.  Its text is canonical: no two slashes stand
side by side and none stands at the end, except in the path `/` itself.  Neither
wildcards nor the characters that set off the parts of a selector occur in it.

* `Path.parse` accepts a text and makes it canonical;
* `Path.under` is a path below another one.
-/

namespace PathSpace

namespace Path

/-- The characters that no path contains. -/
def forbidden : List Char := ['?', '#', '[', ']', '*']

/-- Writes one slash for every run of slashes, and that only when another character
follows; `slash` says that a run has been passed. -/
def collapse (slash : Bool) : List Char → List Char
  | [] => []
  | c :: rest =>
    if c = '/' then collapse true rest
    else if slash then '/' :: c :: collapse false rest
    else c :: collapse false rest

/-- The canonical form of a text: runs of slashes collapse, and a final slash goes unless
there is nothing else. -/
def canonical (text : List Char) : List Char :=
  if text = [] then []
  else if collapse false text = [] then ['/']
  else collapse false text

/-- The byte offset of the first forbidden character. -/
def firstForbidden? (offset : Nat) : List Char → Option Nat
  | [] => none
  | c :: rest => if c ∈ forbidden then some offset else firstForbidden? (offset + c.utf8Size) rest

/-- Nothing but slashes can be new in a collapsed text. -/
theorem mem_of_mem_collapse {c : Char} {b : Bool} {text : List Char}
    (h : c ∈ collapse b text) : c = '/' ∨ c ∈ text := by
  induction text generalizing b with
  | nil => simp [collapse] at h
  | cons d rest ih =>
    rw [collapse] at h
    split at h
    · exact (ih h).imp id (List.mem_cons_of_mem _)
    · split at h
      · rcases List.mem_cons.1 h with h | h
        · exact .inl h
        · rcases List.mem_cons.1 h with h | h
          · exact .inr (h ▸ List.mem_cons_self)
          · exact (ih h).imp id (List.mem_cons_of_mem _)
      · rcases List.mem_cons.1 h with h | h
        · exact .inr (h ▸ List.mem_cons_self)
        · exact (ih h).imp id (List.mem_cons_of_mem _)

/-- A canonical form has no character besides those of the text and the slash. -/
theorem mem_of_mem_canonical {c : Char} {text : List Char} (h : c ∈ canonical text) :
    c = '/' ∨ c ∈ text := by
  rw [canonical] at h
  split at h
  · simp at h
  · split at h
    · exact .inl (List.mem_singleton.1 h)
    · exact mem_of_mem_collapse h

theorem canonical_ne_nil {text : List Char} (h : text ≠ []) : canonical text ≠ [] := by
  rw [canonical]
  split
  · contradiction
  · split <;> simp_all

/-- A collapsed text is collapsed. -/
theorem collapse_collapse (b : Bool) (text : List Char) :
    collapse false (collapse b text) = collapse b text := by
  induction text generalizing b with
  | nil => rfl
  | cons c rest ih =>
    by_cases hc : c = '/'
    · simp [collapse, hc, ih]
    · cases b <;> simp [collapse, hc, ih]

/-- Making a text canonical twice is making it canonical once. -/
theorem canonical_canonical (text : List Char) : canonical (canonical text) = canonical text := by
  by_cases ht : text = []
  · simp [canonical, ht]
  · by_cases hs : collapse false text = []
    · simp [canonical, ht, hs, collapse]
    · simp [canonical, ht, hs, collapse_collapse]

end Path

/-- The canonical name of one place in the space. -/
structure Path where
  /-- The path as a text. -/
  text : String
  /-- The text has at least one character. -/
  nonempty : text.toList ≠ []
  /-- No wildcard and no separator of selector parts occurs. -/
  allowed : ∀ c ∈ text.toList, c ∉ Path.forbidden
  /-- Slashes neither repeat nor end the text. -/
  isCanonical : Path.canonical text.toList = text.toList

namespace Path

instance : DecidableEq Path := fun a b =>
  if h : a.text = b.text then
    isTrue (by cases a; cases b; cases h; rfl)
  else
    isFalse fun e => h (e ▸ rfl)

theorem ext {a b : Path} (h : a.text = b.text) : a = b := by
  cases a; cases b; cases h; rfl

instance : Ord Path := ⟨compareOn text⟩

instance : Std.TransOrd Path := inferInstanceAs (Std.TransCmp (compareOn text))

/-- A text without a first forbidden character has none. -/
theorem firstForbidden?_eq_none {n : Nat} {text : List Char} (h : firstForbidden? n text = none) :
    ∀ c ∈ text, c ∉ forbidden := by
  induction text generalizing n with
  | nil => simp
  | cons d rest ih =>
    rw [firstForbidden?] at h
    split at h
    · simp at h
    · rename_i hd
      intro c hc
      rcases List.mem_cons.1 hc with rfl | hc
      · exact hd
      · exact ih h c hc

/-- Reads a path and makes it canonical.  An empty text is refused, and so is one with a
forbidden character, the first of which is named by its byte offset. -/
def parse (s : String) : Except Error Path :=
  if hs : s.toList = [] then .error (.invalidPath s "empty string" none) else
  match hf : firstForbidden? 0 s.toList with
  | some i => .error (.invalidPath s s!"forbidden character at index {i}" (some i))
  | none =>
    .ok {
      text := String.ofList (canonical s.toList)
      nonempty := by rw [String.toList_ofList]; exact canonical_ne_nil hs
      allowed := by
        intro c hc
        rw [String.toList_ofList] at hc
        rcases mem_of_mem_canonical hc with rfl | hc
        · decide
        · exact firstForbidden?_eq_none hf c hc
      isCanonical := by rw [String.toList_ofList]; exact canonical_canonical _ }

/-- The number of bytes of the text. -/
def length (p : Path) : Nat := p.text.utf8ByteSize

/-- Whether the text is empty, which it never is. -/
def isEmpty (p : Path) : Bool := p.text.isEmpty

/-- Whether the path still has to be placed under a root. -/
def isRelative (p : Path) : Bool := p.text.toList.head? != some '/'

/-- The path that lies at `p` below `root`. -/
def under (p root : Path) : Except Error Path := parse (root.text ++ "/" ++ p.text)

/-- The part behind the last slash. -/
def lastSegment (p : Path) : String :=
  String.ofList ((p.text.toList.splitOn '/').getLast (List.splitOn_ne_nil _ _))

/-- Reads a path from a document. -/
def ofJson? : Json → Option Path
  | .string s => (parse s).toOption
  | _ => none

end Path

end PathSpace
