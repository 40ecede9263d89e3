import ReceiveReactor.Bytes
import ReceiveReactor.Kernel.Call

/-!
# Pipes

A pipe is a queue of bytes held in at most sixteen pages.  A write fills up the
last page only when what is left over after whole pages fits into it; otherwise
it takes new pages.  A page's room comes back when it has been read **to its
end**, so a full pipe takes a small record again only after a page's worth of
them was read.

* `Pipe.write`, `Pipe.read` — the two ends;
* `Pipe.contents` — the view: the bytes not read yet, in order;
* `contents_write`, `contents_read` — a write adds a run of its bytes at the
  end, a read takes a run off the front, and **nothing else moves**.
-/

namespace ReceiveReactor

namespace Host

/-- A page of a pipe: how many bytes were ever written into it, and those not
read yet. -/
structure Page where
  used : Nat
  unread : Bytes
deriving DecidableEq, Repr

/-- A pipe, oldest page first, and which of its ends are open. -/
structure Pipe where
  pages : List Page := []
  readerOpen : Bool := true
  writerOpen : Bool := true
deriving DecidableEq, Repr

namespace Pipe

/-- A new pipe: nothing in it, both ends open. -/
def empty : Pipe := {}

/-- Bytes of a page. -/
def pageSize : Nat := 4096

/-- Pages of a pipe. -/
def maxPages : Nat := 16

/-- The bytes not read yet. -/
def contents (p : Pipe) : Bytes :=
  p.pages.flatMap (·.unread)

/-- Takes new pages for as many of the bytes as there is room for. -/
def appendPages : (room : Nat) → List Page → Bytes → List Page × Nat
  | 0, pages, _ => (pages, 0)
  | room + 1, pages, data =>
    if data = [] then (pages, 0)
    else
      let piece := data.take pageSize
      let (pages, more) := appendPages room (pages ++ [⟨piece.length, piece⟩]) (data.drop pageSize)
      (pages, piece.length + more)

/-- Fills up the last page, if what is left over after whole pages fits there;
answers the pages and how many bytes went in. -/
def merge (pages : List Page) (data : Bytes) : List Page × Nat :=
  let excess := data.length % pageSize
  match pages.getLast? with
  | some last =>
    if 0 < excess ∧ last.used + excess ≤ pageSize then
      (pages.dropLast ++ [⟨last.used + excess, last.unread ++ data.take excess⟩], excess)
    else (pages, 0)
  | none => (pages, 0)

/-- Writes without waiting; answers how many bytes found room. -/
def write (p : Pipe) (data : Bytes) : Except Errno Int × Pipe :=
  if !p.readerOpen then (.error .brokenPipe, p)
  else if data = [] then (.ok 0, p)
  else
    let (pages, merged) := merge p.pages data
    let (pages, appended) := appendPages (maxPages - pages.length) pages (data.drop merged)
    let count := merged + appended
    if count = 0 then (.error .wouldBlock, p) else (.ok count, { p with pages })

/-- Takes up to `size` bytes off the pages. -/
def takePages : (size : Nat) → List Page → Bytes × List Page
  | _, [] => ([], [])
  | size, page :: rest =>
    if page.unread.length ≤ size then
      let (data, rest) := takePages (size - page.unread.length) rest
      (page.unread ++ data, rest)
    else (page.unread.take size, { page with unread := page.unread.drop size } :: rest)

/-- Reads without waiting.  An empty pipe without a writer is at its end. -/
def read (p : Pipe) (size : Nat) : Except Errno Received × Pipe :=
  if size = 0 then (.ok { count := 0 }, p)
  else if p.pages = [] then
    (if p.writerOpen then .error .wouldBlock else .ok { count := 0 }, p)
  else
    let (data, pages) := takePages size p.pages
    (.ok { count := data.length, data }, { p with pages })

/-- How far a pipe has been read: pages left, and bytes left on the first. -/
def level (p : Pipe) : Nat × Nat :=
  (p.pages.length, ((p.pages.head?).map (·.unread.length)).getD 0)

/-- What a wait for input finds on the read end. -/
def readEvents (p : Pipe) : Events :=
  (if p.pages = [] then .none else .input) ∪ (if p.writerOpen then .none else .hangup)

/-- What a wait for input finds on the write end. -/
def writeEvents (p : Pipe) : Events :=
  if p.readerOpen then .none else .error

/-! ## The view -/

/-- The unread bytes of some pages, in order. -/
def unreadOf (pages : List Page) : Bytes := pages.flatMap (·.unread)

theorem contents_eq (p : Pipe) : p.contents = unreadOf p.pages := rfl

/-- A page's unread bytes come before those of the pages behind it. -/
theorem unreadOf_cons (page : Page) (rest : List Page) :
    unreadOf (page :: rest) = page.unread ++ unreadOf rest := rfl

/-- Taking bytes off pages only moves them. -/
theorem takePages_append (size : Nat) (pages : List Page) :
    (takePages size pages).1 ++ unreadOf (takePages size pages).2 = unreadOf pages := by
  induction pages generalizing size with
  | nil => simp [takePages, unreadOf]
  | cons page rest ih =>
    by_cases h : page.unread.length ≤ size
    · have := ih (size - page.unread.length)
      simp only [takePages, h, if_true, List.append_assoc, this]
      simp [unreadOf]
    · simp [takePages, h, unreadOf, ← List.append_assoc]

/-- New pages hold as much of the data as found room, in order. -/
theorem unreadOf_appendPages (room : Nat) (pages : List Page) (data : Bytes) :
    unreadOf (appendPages room pages data).1
      = unreadOf pages ++ data.take (appendPages room pages data).2 := by
  induction room generalizing pages data with
  | zero => simp [appendPages]
  | succ room ih =>
    by_cases h : data = []
    · simp [appendPages, h]
    · have hpiece (n : Nat) :
          data.take ((data.take pageSize).length + n)
            = data.take pageSize ++ (data.drop pageSize).take n := by
        rw [List.length_take]
        by_cases hle : pageSize ≤ data.length
        · rw [Nat.min_eq_left hle, List.take_add]
        · have hlt : data.length ≤ pageSize := by omega
          rw [Nat.min_eq_right hlt, List.drop_eq_nil_of_le hlt, List.take_of_length_le (by omega),
            List.take_of_length_le hlt]
          simp
      simp only [appendPages, h, if_false, ih, hpiece]
      simp [unreadOf]

/-- Filling up the last page puts bytes behind what is there. -/
theorem unreadOf_merge (pages : List Page) (data : Bytes) :
    unreadOf (merge pages data).1 = unreadOf pages ++ data.take (merge pages data).2 := by
  unfold merge
  cases hlast : pages.getLast? with
  | none => simp
  | some last =>
    obtain ⟨front, rfl⟩ := List.getLast?_eq_some_iff.mp hlast
    dsimp only
    split
    · simp [unreadOf]
    · simp

/-- **Writing** adds the bytes that found room at the end. -/
theorem contents_write {p q : Pipe} {data : Bytes} {count : Int}
    (h : p.write data = (.ok count, q)) : q.contents = p.contents ++ data.take count.toNat := by
  unfold write at h
  split at h
  · simp at h
  · split at h
    · simp only [Prod.mk.injEq, Except.ok.injEq] at h
      obtain ⟨rfl, rfl⟩ := h
      simp
    · dsimp only at h
      split at h
      · simp at h
      · simp only [Prod.mk.injEq, Except.ok.injEq] at h
        obtain ⟨rfl, rfl⟩ := h
        have hmerge := unreadOf_merge p.pages data
        have happend := unreadOf_appendPages (maxPages - (merge p.pages data).1.length)
          (merge p.pages data).1 (data.drop (merge p.pages data).2)
        simp only [contents_eq, happend, hmerge, Int.toNat_natCast, List.append_assoc,
          ← List.take_add]

/-- A **refused** write changes nothing. -/
theorem write_refused {p q : Pipe} {data : Bytes} {errno : Errno}
    (h : p.write data = (.error errno, q)) : q = p := by
  unfold write at h
  split at h
  · simp_all
  · split at h
    · simp at h
    · dsimp only at h
      split at h <;> simp_all

/-- **Reading** takes what it answers off the front. -/
theorem contents_read {p q : Pipe} {size : Nat} {r : Received}
    (h : p.read size = (.ok r, q)) : p.contents = r.data ++ q.contents := by
  unfold read at h
  split at h
  · simp only [Prod.mk.injEq, Except.ok.injEq] at h
    obtain ⟨rfl, rfl⟩ := h
    simp
  · split at h
    · next hempty =>
      split at h
      · simp at h
      · simp only [Prod.mk.injEq, Except.ok.injEq] at h
        obtain ⟨rfl, rfl⟩ := h
        simp
    · simp only [Prod.mk.injEq, Except.ok.injEq] at h
      obtain ⟨rfl, rfl⟩ := h
      exact (takePages_append size p.pages).symm

end Pipe

end Host

end ReceiveReactor
