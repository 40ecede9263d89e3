import ReceiveReactor.Host.Answer
import ReceiveReactor.Proofs.LocalPipe

/-!
# A pipe in pages

A host keeps a pipe in pages, and the room of a page comes back only when all of it has been
read.  For records, which are shorter than a page, that is still a queue of bytes into which
each goes whole or not at all.

* `Host.Pipe.Sound` — the pages as reads and writes leave them;
* `Host.Pipe.write_short` — what becomes of a write that is **shorter than a page**;
* `Host.Pipe.read_cases` — what becomes of a read;
* `PipedHost` — a host whose first two descriptors are the ends of a pipe, until they are
  closed;
* `hostPipe` — the laws of a control channel hold for it.
-/

namespace ReceiveReactor

namespace Host

/-- A page as reads and writes leave it: something in it is still to be read, and it holds no
more than was written into it. -/
structure Page.Sound (page : Page) : Prop where
  unread_ne_nil : page.unread ≠ []
  length_le : page.unread.length ≤ page.used
  used_le : page.used ≤ Pipe.pageSize

namespace Pipe

/-- The pages as reads and writes leave them. -/
structure Sound (p : Pipe) : Prop where
  length_le : p.pages.length ≤ maxPages
  page : ∀ page ∈ p.pages, page.Sound

/-- So many bytes, less than a page, find room: on a new page or behind the last one. -/
def hasRoom (p : Pipe) (n : Nat) : Bool :=
  p.pages.length < maxPages || p.pages.getLast?.any fun last => last.used + n ≤ pageSize

variable {p : Pipe} {data : Bytes}

/-! ## Writes -/

/-- Nothing takes no page. -/
@[simp] theorem appendPages_nil (room : Nat) (pages : List Page) :
    appendPages room pages [] = (pages, 0) := by
  cases room <;> rfl

/-- What fits on a page takes one, if there is one. -/
theorem appendPages_short (room : Nat) (pages : List Page) (hne : data ≠ [])
    (hshort : data.length ≤ pageSize) :
    (appendPages room pages data).2 = if room = 0 then 0 else data.length := by
  cases room with
  | zero => rfl
  | succ room =>
      simp [appendPages, hne, List.drop_eq_nil_of_le hshort, List.take_of_length_le hshort]

/-- The bytes go behind the last page's if they fit there, and no page comes or goes. -/
theorem merge_short (pages : List Page) (hne : data ≠ []) (hshort : data.length < pageSize) :
    (merge pages data).1.length = pages.length ∧
      (merge pages data).2 =
        if pages.getLast?.any (fun last => last.used + data.length ≤ pageSize) then data.length
        else 0 := by
  have hpositive : 0 < data.length := List.length_pos_iff.mpr hne
  unfold merge
  rw [Nat.mod_eq_of_lt hshort]
  cases hlast : pages.getLast? with
  | none => exact ⟨rfl, rfl⟩
  | some last =>
      obtain ⟨front, rfl⟩ := List.getLast?_eq_some_iff.mp hlast
      by_cases hfits : last.used + data.length ≤ pageSize <;> simp [hfits, hpositive]

/-- **A short write is all or nothing**, while there is a reader. -/
theorem write_short (hreader : p.readerOpen = true) (hne : data ≠ [])
    (hshort : data.length < pageSize) :
    (p.write data).1 = if p.hasRoom data.length then .ok (data.length : Int)
      else .error Errno.wouldBlock := by
  obtain ⟨hlength, hmerged⟩ := merge_short p.pages hne hshort
  have happended := appendPages_short (maxPages - (merge p.pages data).1.length)
    (merge p.pages data).1 hne (Nat.le_of_lt hshort)
  unfold write hasRoom
  cases hfits : p.pages.getLast?.any fun last => last.used + data.length ≤ pageSize with
  | true =>
      -- Nothing is left for a new page.
      rw [hfits, if_pos rfl] at hmerged
      simp [hreader, hne, hmerged]
  | false =>
      rw [hfits, if_neg Bool.false_ne_true] at hmerged
      rw [hlength] at happended
      by_cases hpage : p.pages.length < maxPages
      · have hroom : maxPages - p.pages.length ≠ 0 := by omega
        simp [hreader, hne, hmerged, hlength, happended, hroom, hpage]
      · have hroom : maxPages - p.pages.length = 0 := by omega
        rw [hroom, if_pos rfl] at happended
        simp [hreader, hne, hmerged, hlength, happended, hroom, hpage]

/-- A short write puts all of its bytes behind the others, or **leaves no trace**. -/
theorem write_cases (p : Pipe) (hne : data ≠ []) (hshort : data.length < pageSize) :
    (∃ q, p.write data = (.ok (data.length : Int), q) ∧ q.contents = p.contents ++ data) ∨
      ∃ errno, p.write data = (.error errno, p) := by
  cases hwrite : p.write data with
  | mk result q =>
      cases result with
      | error errno => exact Or.inr ⟨errno, by rw [write_refused hwrite]⟩
      | ok count =>
          have hcount : count = data.length := by
            cases hreader : p.readerOpen with
            | false => simp [write, hreader] at hwrite
            | true =>
                have hanswer := write_short hreader hne hshort
                rw [hwrite] at hanswer
                split at hanswer
                · exact Except.ok.inj hanswer
                · cases hanswer
          subst hcount
          refine Or.inl ⟨q, rfl, ?_⟩
          rw [contents_write hwrite, Int.toNat_natCast, List.take_length]

/-! ## Reads -/

/-- What is taken off some pages is the front of what was unread on them. -/
theorem takePages_fst (size : Nat) (pages : List Page) :
    (takePages size pages).1 = (unreadOf pages).take size := by
  induction pages generalizing size with
  | nil => simp [takePages, unreadOf]
  | cons page rest ih =>
      by_cases h : page.unread.length ≤ size
      · simp only [takePages, if_pos h, ih, unreadOf_cons]
        rw [List.take_append, List.take_of_length_le h]
      · simp only [takePages, if_neg h, unreadOf_cons]
        rw [List.take_append_of_le_length (Nat.le_of_not_le h)]

/-- **A read takes the front**, or finds nothing while there is a writer. -/
theorem read_cases {size : Nat} (p : Pipe) (hsize : size ≠ 0) :
    (∃ q, p.read size = (.ok { count := (p.contents.take size).length
                               data := p.contents.take size }, q) ∧
      q.contents = p.contents.drop size) ∨
    p.read size = (.error Errno.wouldBlock, p) ∧ p.pages = [] ∧ p.writerOpen = true := by
  by_cases hnothing : p.pages = []
  · have hcontents : p.contents = [] := by rw [contents_eq, hnothing]; rfl
    cases hwriter : p.writerOpen with
    | true => exact Or.inr ⟨by simp [read, hsize, hnothing, hwriter], hnothing, rfl⟩
    | false =>
        refine Or.inl ⟨p, ?_, ?_⟩
        · simp [read, hsize, hnothing, hwriter, hcontents]
        · rw [hcontents, List.drop_nil]
  · have hread : p.read size = (.ok { count := (p.contents.take size).length
                                      data := p.contents.take size },
        { p with pages := (takePages size p.pages).2 }) := by
      simp only [read, if_neg hsize, if_neg hnothing, takePages_fst, contents_eq]
    have hsplit : p.contents.take size ++ p.contents.drop size =
        p.contents.take size ++ Pipe.contents { p with pages := (takePages size p.pages).2 } :=
      (List.take_append_drop size p.contents).trans (contents_read hread)
    exact Or.inl ⟨_, hread, (List.append_cancel_left hsplit).symm⟩

/-! ## What reads and writes keep -/

/-- The pages that are taken are sound, and no more than there is room for. -/
theorem sound_appendPages (room : Nat) {pages : List Page} (data : Bytes)
    (hpages : ∀ page ∈ pages, page.Sound) :
    (appendPages room pages data).1.length ≤ pages.length + room ∧
      ∀ page ∈ (appendPages room pages data).1, page.Sound := by
  induction room generalizing pages data with
  | zero => exact ⟨Nat.le_refl _, hpages⟩
  | succ room ih =>
      by_cases hne : data = []
      · rw [hne, appendPages_nil]
        exact ⟨Nat.le_add_right _ _, hpages⟩
      · have hpage : Page.Sound ⟨(data.take pageSize).length, data.take pageSize⟩ :=
          ⟨by simpa [pageSize] using hne, Nat.le_refl _, List.length_take_le _ _⟩
        obtain ⟨hlength, hsound⟩ := ih (data.drop pageSize)
          (List.forall_mem_append.mpr ⟨hpages, List.forall_mem_singleton.mpr hpage⟩)
        rw [List.length_append, List.length_singleton] at hlength
        simp only [appendPages, if_neg hne]
        exact ⟨by omega, hsound⟩

/-- Filling up the last page leaves it sound, and takes no other. -/
theorem sound_merge {pages : List Page} (data : Bytes) (hpages : ∀ page ∈ pages, page.Sound) :
    (merge pages data).1.length = pages.length ∧
      ∀ page ∈ (merge pages data).1, page.Sound := by
  unfold merge
  cases hlast : pages.getLast? with
  | none => exact ⟨rfl, hpages⟩
  | some last =>
      obtain ⟨front, rfl⟩ := List.getLast?_eq_some_iff.mp hlast
      obtain ⟨hfront, hlast'⟩ := List.forall_mem_append.mp hpages
      have hsound := List.forall_mem_singleton.mp hlast'
      dsimp only
      split
      · next hfits =>
        refine ⟨by simp, ?_⟩
        rw [List.dropLast_concat]
        refine List.forall_mem_append.mpr ⟨hfront, List.forall_mem_singleton.mpr ⟨?_, ?_, hfits.2⟩⟩
        · exact fun hnil => hsound.unread_ne_nil (List.append_eq_nil_iff.mp hnil).1
        · rw [List.length_append]
          exact Nat.add_le_add hsound.length_le (List.length_take_le _ _)
      · exact ⟨rfl, hpages⟩

/-- **Writing leaves sound pages**, whatever finds room. -/
theorem Sound.write (hp : p.Sound) (data : Bytes) : (p.write data).2.Sound := by
  obtain ⟨hlength, hmerged⟩ := sound_merge data hp.page
  obtain ⟨hlength', happended⟩ := sound_appendPages (maxPages - (merge p.pages data).1.length)
    (data.drop (merge p.pages data).2) hmerged
  have hmost := hp.length_le
  unfold Pipe.write
  split_ifs
  · exact hp
  · exact hp
  · dsimp only
    split_ifs
    · exact hp
    · refine ⟨Nat.le_trans hlength' ?_, happended⟩
      omega

/-- What is left on pages after a read is sound: a page that is read to its end goes. -/
theorem sound_takePages (size : Nat) {pages : List Page} (hpages : ∀ page ∈ pages, page.Sound) :
    (takePages size pages).2.length ≤ pages.length ∧
      ∀ page ∈ (takePages size pages).2, page.Sound := by
  induction pages generalizing size with
  | nil => exact ⟨Nat.le_refl _, hpages⟩
  | cons page rest ih =>
      obtain ⟨hpage, hrest⟩ := List.forall_mem_cons.mp hpages
      by_cases h : page.unread.length ≤ size
      · obtain ⟨hlength, hsound⟩ := ih (size - page.unread.length) hrest
        simp only [takePages, if_pos h]
        exact ⟨Nat.le_succ_of_le hlength, hsound⟩
      · simp only [takePages, if_neg h]
        refine ⟨Nat.le_refl _, List.forall_mem_cons.mpr ⟨⟨?_, ?_, hpage.used_le⟩, hrest⟩⟩
        · simpa using Nat.lt_of_not_le h
        · rw [List.length_drop]
          exact Nat.le_trans (Nat.sub_le _ _) hpage.length_le

/-- **So does reading.** -/
theorem Sound.read (hp : p.Sound) (size : Nat) : (p.read size).2.Sound := by
  obtain ⟨hlength, hsound⟩ := sound_takePages size hp.page
  unfold Pipe.read
  split
  · exact hp
  · split
    · exact hp
    · exact ⟨Nat.le_trans hlength hp.length_le, hsound⟩

/-- Nothing is unread exactly if there is no page. -/
theorem Sound.contents_eq_nil_iff (hp : p.Sound) : p.contents = [] ↔ p.pages = [] := by
  refine ⟨fun hnil => ?_, fun hnil => by rw [contents_eq, hnil]; rfl⟩
  rcases hpages : p.pages with _ | ⟨page, rest⟩
  · rfl
  · rw [contents_eq, hpages] at hnil
    have hpage := hp.page page (by simp [hpages])
    exact absurd (List.append_eq_nil_iff.mp hnil).1 hpage.unread_ne_nil

/-- Both ends are open, and the pages are as reads and writes leave them. -/
structure InUse (p : Pipe) : Prop where
  readerOpen : p.readerOpen = true
  writerOpen : p.writerOpen = true
  sound : p.Sound

/-- Writing closes no end. -/
theorem InUse.write (hp : p.InUse) (data : Bytes) : (p.write data).2.InUse := by
  have hends : (p.write data).2.readerOpen = p.readerOpen ∧
      (p.write data).2.writerOpen = p.writerOpen := by
    unfold Pipe.write
    split_ifs
    · exact ⟨rfl, rfl⟩
    · exact ⟨rfl, rfl⟩
    · dsimp only
      split_ifs <;> exact ⟨rfl, rfl⟩
  exact ⟨hends.1.trans hp.readerOpen, hends.2.trans hp.writerOpen, hp.sound.write data⟩

/-- Nor does reading. -/
theorem InUse.read (hp : p.InUse) (size : Nat) : (p.read size).2.InUse := by
  have hends : (p.read size).2.readerOpen = p.readerOpen ∧
      (p.read size).2.writerOpen = p.writerOpen := by
    unfold Pipe.read
    repeat' split
    all_goals exact ⟨rfl, rfl⟩
  exact ⟨hends.1.trans hp.readerOpen, hends.2.trans hp.writerOpen, hp.sound.read size⟩

/-- A pipe in use is empty for a reader **until something is written**. -/
theorem InUse.read_of_empty (hp : p.InUse) {size : Nat} (hsize : size ≠ 0)
    (hempty : p.contents = []) : p.read size = (.error Errno.wouldBlock, p) := by
  have hnothing := hp.sound.contents_eq_nil_iff.mp hempty
  simp [Pipe.read, hsize, hnothing, hp.writerOpen]

/-- A pipe that is not empty is read from. -/
theorem InUse.read_of_some (hp : p.InUse) {size : Nat} (hsize : size ≠ 0)
    (hsome : p.contents ≠ []) : ∃ received, (p.read size).1 = .ok received := by
  rcases p.read_cases hsize with ⟨q, hread, -⟩ | ⟨-, hnothing, -⟩
  · exact ⟨_, by rw [hread]⟩
  · exact absurd (hp.sound.contents_eq_nil_iff.mpr hnothing) hsome

/-- Bytes that a pipe holds at most. -/
def capacity : Nat := maxPages * pageSize

/-- Some pages hold no more than was written into them. -/
theorem length_unreadOf_le {pages : List Page} (hpages : ∀ page ∈ pages, page.Sound) :
    (unreadOf pages).length ≤ pages.length * pageSize := by
  induction pages with
  | nil => exact Nat.le_refl _
  | cons page rest ih =>
      obtain ⟨hpage, hrest⟩ := List.forall_mem_cons.mp hpages
      have hunread := Nat.le_trans hpage.length_le hpage.used_le
      have hle := ih hrest
      rw [unreadOf_cons, List.length_append, List.length_cons, Nat.succ_mul]
      omega

/-- **What would not fit into the capacity finds no room.** -/
theorem Sound.hasRoom_eq_false (hp : p.Sound) {n : Nat} (hn : n ≤ pageSize)
    (hlong : capacity < p.contents.length + n) : p.hasRoom n = false := by
  rw [contents_eq] at hlong
  have hlength := hp.length_le
  unfold capacity at hlong
  unfold hasRoom
  cases hlast : p.pages.getLast? with
  | none =>
      rw [List.getLast?_eq_none_iff.mp hlast] at hlong
      simp [unreadOf, maxPages] at hlong
      omega
  | some last =>
      obtain ⟨front, hpages⟩ := List.getLast?_eq_some_iff.mp hlast
      have hsound := hp.page
      rw [hpages] at hlong hlength hsound
      obtain ⟨hfront, hlast'⟩ := List.forall_mem_append.mp hsound
      have hbound := length_unreadOf_le hfront
      have hunread := (List.forall_mem_singleton.mp hlast').length_le
      have hused := (List.forall_mem_singleton.mp hlast').used_le
      have hcontents : (unreadOf (front ++ [last])).length =
          (unreadOf front).length + last.unread.length := by simp [unreadOf]
      rw [hcontents] at hlong
      rw [List.length_append, List.length_singleton] at hlength
      refine Bool.eq_false_iff.mpr fun hroom => ?_
      rcases Bool.or_eq_true_iff.mp hroom with hpage | hfits
      · have hpage := of_decide_eq_true hpage
        rw [hpages, List.length_append, List.length_singleton] at hpage
        simp only [maxPages, pageSize] at *
        omega
      · have hfits : last.used + n ≤ pageSize := of_decide_eq_true hfits
        simp only [maxPages, pageSize] at *
        omega

end Pipe

/-! ## What sockets leave alone -/

/-- Two hosts with the same descriptors and pipes. -/
structure SamePipes (h g : Host) : Prop where
  descriptors : g.descriptors = h.descriptors
  pipes : g.pipes = h.pipes

/-- What two steps leave alone, both leave alone. -/
theorem SamePipes.trans {h g k : Host} (hg : h.SamePipes g) (hk : g.SamePipes k) : h.SamePipes k :=
  ⟨hk.descriptors.trans hg.descriptors, hk.pipes.trans hg.pipes⟩

variable (h : Host)

/-- Sending into a stream moves the two sockets only. -/
theorem samePipes_transmitBytes (id : Nat) (e : Endpoint) (data : Bytes) :
    h.SamePipes (h.transmitBytes id e data).2 := by
  unfold transmitBytes
  cases e.peer with
  | none => exact ⟨rfl, rfl⟩
  | some far =>
      dsimp only
      split_ifs
      · exact ⟨rfl, rfl⟩
      · exact ⟨rfl, rfl⟩
      · split <;> exact ⟨rfl, rfl⟩

/-- So does sending a message. -/
theorem samePipes_transmitMessage (id : Nat) (e : Endpoint) (message : Bytes) :
    h.SamePipes (h.transmitMessage id e message).2 := by
  unfold transmitMessage
  repeat' split
  all_goals exact ⟨rfl, rfl⟩

/-- Giving a socket a name changes that socket only. -/
theorem samePipes_ensureName (id : Nat) (e : Endpoint) : h.SamePipes (h.ensureName id e) := by
  unfold ensureName giveName
  repeat' split
  all_goals exact ⟨rfl, rfl⟩

/-- **Sending moves sockets only.** -/
theorem samePipes_transmit (id : Nat) (e : Endpoint) (data : Bytes) :
    h.SamePipes (h.transmit id e data).2 := by
  unfold transmit
  split
  · split
    · exact h.samePipes_transmitBytes id e data
    · exact h.samePipes_transmitMessage id e data
  · split
    · exact ⟨rfl, rfl⟩
    · exact h.samePipes_ensureName id e

/-- What every step of a loop leaves alone, the loop does. -/
theorem samePipes_foldl {α : Type} {f : Host → α → Host} (hf : ∀ g a, SamePipes g (f g a))
    (as : List α) : h.SamePipes (as.foldl f h) := by
  induction as generalizing h with
  | nil => exact ⟨rfl, rfl⟩
  | cons a as ih => exact (hf h a).trans (ih (f h a))

/-- **The end of a socket** ends sockets only. -/
theorem samePipes_closeEndpoint (id : Nat) : h.SamePipes (h.closeEndpoint id) := by
  unfold closeEndpoint
  cases h.endpoint? id with
  | none => exact ⟨rfl, rfl⟩
  | some e =>
      dsimp only
      refine SamePipes.trans ?_ (samePipes_foldl _ ?_ e.backlog)
      · cases e.peer <;> exact ⟨rfl, rfl⟩
      · intro g waiting
        repeat' split
        all_goals exact ⟨rfl, rfl⟩

/-- A descriptor that is found is one of the host's, and has that number. -/
theorem mem_of_find? {fd : Fd} {d : Descriptor} (hfind : h.find? fd = some d) :
    d ∈ h.descriptors ∧ d.number = fd.toInt.toNat := by
  unfold find? at hfind
  split at hfind
  · cases hfind
  · exact ⟨List.mem_of_find?_eq_some hfind, by simpa using List.find?_some hfind⟩

/-- Writing changes no descriptor. -/
theorem descriptors_write (fd : Fd) (data : Bytes) :
    (h.write fd data).2.descriptors = h.descriptors := by
  unfold write
  repeat' split
  any_goals rfl
  exact (h.samePipes_transmit _ _ data).descriptors

/-- Nor does reading. -/
theorem descriptors_read (fd : Fd) (size : Nat) :
    (h.read fd size).2.descriptors = h.descriptors := by
  unfold read
  cases h.find? fd with
  | none => rfl
  | some d =>
      cases hd : d.target with
      | pipeWriter id => simp only [hd]
      | pipeReader id =>
          simp only [hd]
          split <;> rfl
      | socket id =>
          simp only [hd]
          split
          · rfl
          · split_ifs <;> rfl

/-- Nor does waiting, and it moves nothing in a pipe. -/
theorem samePipes_poll (slots : List PollSlot) : h.SamePipes (h.poll slots).2 := by
  unfold poll
  split <;> exact ⟨rfl, rfl⟩

/-- Closing takes descriptors away and gives none. -/
theorem descriptors_close (fd : Fd) {d : Descriptor} (hd : d ∈ (h.close fd).descriptors) :
    d ∈ h.descriptors := by
  unfold close at hd
  split at hd
  · exact hd
  · dsimp only at hd
    split at hd
    · exact List.mem_of_mem_filter hd
    · exact List.mem_of_mem_filter hd
    · rw [(samePipes_closeEndpoint _ _).descriptors] at hd
      exact List.mem_of_mem_filter hd

/-- What a descriptor refers to depends on the descriptors alone. -/
theorem find?_congr {g : Host} (hg : g.descriptors = h.descriptors) (fd : Fd) :
    g.find? fd = h.find? fd := by
  unfold find?
  rw [hg]

end Host

/-! ## The host -/

/-- A record is shorter than a page, and it is something. -/
theorem ControlRecord.encode_short (r : ControlRecord) :
    r.encode ≠ [] ∧ r.encode.length < Host.Pipe.pageSize := by
  rw [Ne, ← List.length_eq_zero_iff, length_encode]
  decide

/-- A host whose first pipe has its ends at the descriptors 3 and 4, until they are
closed. -/
structure PipedHost where
  host : Host
  reader : ∀ d ∈ host.descriptors, d.number = 3 → d.target = .pipeReader 0
  writer : ∀ d ∈ host.descriptors, d.number = 4 → d.target = .pipeWriter 0

namespace PipedHost

/-- The host has gone on and has opened no descriptor. -/
def follow (h : PipedHost) (g : Host) (hg : ∀ d ∈ g.descriptors, d ∈ h.host.descriptors) :
    PipedHost where
  host := g
  reader := fun d hd => h.reader d (hg d hd)
  writer := fun d hd => h.writer d (hg d hd)

/-- The kernel answers as the host does to the calls that a reactor makes, and refuses
others. -/
def answer : (c : Call) → PipedHost → c.Reply × PipedHost
  | .write fd data, h =>
    ((h.host.write fd data).1, h.follow (h.host.write fd data).2
      (by rw [h.host.descriptors_write]; exact fun _ hd => hd))
  | .read fd size, h =>
    ((h.host.read fd size).1, h.follow (h.host.read fd size).2
      (by rw [h.host.descriptors_read]; exact fun _ hd => hd))
  | .poll slots _, h =>
    ((h.host.poll slots).1, h.follow (h.host.poll slots).2
      (by rw [(h.host.samePipes_poll slots).descriptors]; exact fun _ hd => hd))
  | .close fd, h =>
    ((), h.follow (h.host.close fd) fun _ hd => h.host.descriptors_close fd hd)
  | c, h => (c.refused Errno.badDescriptor, h)

/-- The pipe. -/
def pipe? (h : PipedHost) : Option Host.Pipe := h.host.pipes[0]?

/-- The bytes not read yet. -/
def contents (h : PipedHost) : Bytes := (h.pipe?.map Host.Pipe.contents).getD []

variable {h : PipedHost} {p : Host.Pipe}

/-- What is unread on the host is what is unread in its pipe. -/
theorem contents_of_pipe (hp : h.pipe? = some p) : h.contents = p.contents := by
  simp [contents, hp]

/-- Hosts with the same pipe have the same bytes to read. -/
theorem contents_congr {k : PipedHost} (hk : k.pipe? = h.pipe?) : k.contents = h.contents := by
  rw [contents, hk, contents]

/-- What the pipe is after a change. -/
theorem pipe?_modify (hp : h.pipe? = some p) (q : Host.Pipe) :
    (h.host.modifyPipe 0 fun _ => q).pipes[0]? = some q := by
  have hp' : h.host.pipes[0]? = some p := hp
  simp [Host.modifyPipe, hp']

/-- An end and the pipe are there, or one of them is not. -/
theorem ends_cases (h : PipedHost) (fd : Fd) :
    (h.host.find? fd = none ∨ h.pipe? = none) ∨
      ∃ d p, h.host.find? fd = some d ∧ h.pipe? = some p := by
  cases hfind : h.host.find? fd with
  | none => exact Or.inl (Or.inl rfl)
  | some d =>
      cases hp : h.pipe? with
      | none => exact Or.inl (Or.inr rfl)
      | some p => exact Or.inr ⟨d, p, rfl, rfl⟩

/-- A write at the writing end is one into the pipe. -/
theorem write_of_pipe {d : Host.Descriptor} (hfind : h.host.find? PipeHost.writeEnd = some d)
    (hp : h.pipe? = some p) (data : Bytes) :
    (answer (.write PipeHost.writeEnd data) h).1 = (p.write data).1 ∧
      (answer (.write PipeHost.writeEnd data) h).2.pipe? = some (p.write data).2 := by
  obtain ⟨hmem, hnumber⟩ := h.host.mem_of_find? hfind
  have hp' : h.host.pipes[0]? = some p := hp
  have hwrite : h.host.write PipeHost.writeEnd data =
      ((p.write data).1, h.host.modifyPipe 0 fun _ => (p.write data).2) := by
    simp only [Host.write, hfind, h.writer d hmem hnumber, hp']
  show (h.host.write _ data).1 = _ ∧ (h.host.write _ data).2.pipes[0]? = _
  rw [hwrite]
  exact ⟨rfl, pipe?_modify hp _⟩

/-- A read at the reading end is one from the pipe. -/
theorem read_of_pipe {d : Host.Descriptor} (hfind : h.host.find? PipeHost.readEnd = some d)
    (hp : h.pipe? = some p) (size : Nat) :
    (answer (.read PipeHost.readEnd size) h).1 = (p.read size).1 ∧
      (answer (.read PipeHost.readEnd size) h).2.pipe? = some (p.read size).2 := by
  obtain ⟨hmem, hnumber⟩ := h.host.mem_of_find? hfind
  have hp' : h.host.pipes[0]? = some p := hp
  have hread : h.host.read PipeHost.readEnd size =
      ((p.read size).1, h.host.modifyPipe 0 fun _ => (p.read size).2) := by
    simp only [Host.read, hfind, h.reader d hmem hnumber, hp']
  show (h.host.read _ size).1 = _ ∧ (h.host.read _ size).2.pipes[0]? = _
  rw [hread]
  exact ⟨rfl, pipe?_modify hp _⟩

/-- Without the writing end, or without a pipe, writing comes to nothing. -/
theorem write_of_none (hnone : h.host.find? PipeHost.writeEnd = none ∨ h.pipe? = none)
    (data : Bytes) :
    (answer (.write PipeHost.writeEnd data) h).1 = .error .badDescriptor ∧
      (answer (.write PipeHost.writeEnd data) h).2.pipe? = h.pipe? := by
  have hwrite : h.host.write PipeHost.writeEnd data = (.error .badDescriptor, h.host) := by
    cases hfind : h.host.find? PipeHost.writeEnd with
    | none => simp only [Host.write, hfind]
    | some d =>
        obtain ⟨hmem, hnumber⟩ := h.host.mem_of_find? hfind
        have hp : h.host.pipes[0]? = none := hnone.resolve_left (by simp [hfind])
        simp only [Host.write, hfind, h.writer d hmem hnumber, hp]
  show (h.host.write _ data).1 = _ ∧ (h.host.write _ data).2.pipes[0]? = _
  rw [hwrite]
  exact ⟨rfl, rfl⟩

/-- Without the reading end, or without a pipe, so does reading. -/
theorem read_of_none (hnone : h.host.find? PipeHost.readEnd = none ∨ h.pipe? = none)
    (size : Nat) :
    (answer (.read PipeHost.readEnd size) h).1 = .error .badDescriptor ∧
      (answer (.read PipeHost.readEnd size) h).2.pipe? = h.pipe? := by
  have hread : h.host.read PipeHost.readEnd size = (.error .badDescriptor, h.host) := by
    cases hfind : h.host.find? PipeHost.readEnd with
    | none => simp only [Host.read, hfind]
    | some d =>
        obtain ⟨hmem, hnumber⟩ := h.host.mem_of_find? hfind
        have hp : h.host.pipes[0]? = none := hnone.resolve_left (by simp [hfind])
        simp only [Host.read, hfind, h.reader d hmem hnumber, hp]
  show (h.host.read _ size).1 = _ ∧ (h.host.read _ size).2.pipes[0]? = _
  rw [hread]
  exact ⟨rfl, rfl⟩

/-- **A record goes in whole or not at all.** -/
theorem write_cases (r : ControlRecord) (h : PipedHost) :
    ((answer (.write PipeHost.writeEnd r.encode) h).1 = .ok (ControlRecord.size : Int) ∧
      (answer (.write PipeHost.writeEnd r.encode) h).2.contents = h.contents ++ r.encode) ∨
    ∃ errno, (answer (.write PipeHost.writeEnd r.encode) h).1 = .error errno ∧
      (answer (.write PipeHost.writeEnd r.encode) h).2.contents = h.contents := by
  rcases h.ends_cases PipeHost.writeEnd with hnone | ⟨d, p, hd, hp⟩
  · obtain ⟨hanswer, hpipe⟩ := write_of_none hnone r.encode
    exact Or.inr ⟨_, hanswer, contents_congr hpipe⟩
  · obtain ⟨hne, hshort⟩ := r.encode_short
    obtain ⟨hanswer, hpipe⟩ := write_of_pipe hd hp r.encode
    rw [hanswer, contents_of_pipe hpipe, contents_of_pipe hp]
    rcases p.write_cases hne hshort with ⟨q, hwrite, hcontents⟩ | ⟨errno, hwrite⟩
    · rw [hwrite, ControlRecord.length_encode]
      exact Or.inl ⟨rfl, hcontents⟩
    · rw [hwrite]
      exact Or.inr ⟨errno, rfl, rfl⟩

/-- Whatever is written, what finds room goes behind the bytes that are there. -/
theorem contents_write (data : Bytes) (h : PipedHost) :
    ∃ more, (answer (.write PipeHost.writeEnd data) h).2.contents = h.contents ++ more := by
  rcases h.ends_cases PipeHost.writeEnd with hnone | ⟨d, p, hd, hp⟩
  · exact ⟨[], by rw [contents_congr (write_of_none hnone data).2, List.append_nil]⟩
  · rw [contents_of_pipe (write_of_pipe hd hp data).2, contents_of_pipe hp]
    cases hwrite : p.write data with
    | mk result q =>
        cases result with
        | error errno => exact ⟨[], by rw [Host.Pipe.write_refused hwrite, List.append_nil]⟩
        | ok count => exact ⟨_, Host.Pipe.contents_write hwrite⟩

/-- **A record's bytes are read off the front**, or nothing is. -/
theorem read_cases (h : PipedHost) :
    ((answer (.read PipeHost.readEnd ControlRecord.size) h).1 =
        .ok { count := (h.contents.take ControlRecord.size).length
              data := h.contents.take ControlRecord.size } ∧
      (answer (.read PipeHost.readEnd ControlRecord.size) h).2.contents =
        h.contents.drop ControlRecord.size) ∨
    ∃ errno, (answer (.read PipeHost.readEnd ControlRecord.size) h).1 = .error errno ∧
      (answer (.read PipeHost.readEnd ControlRecord.size) h).2.contents = h.contents := by
  rcases h.ends_cases PipeHost.readEnd with hnone | ⟨d, p, hd, hp⟩
  · obtain ⟨hanswer, hpipe⟩ := read_of_none hnone ControlRecord.size
    exact Or.inr ⟨_, hanswer, contents_congr hpipe⟩
  · obtain ⟨hanswer, hpipe⟩ := read_of_pipe hd hp ControlRecord.size
    rw [hanswer, contents_of_pipe hpipe, contents_of_pipe hp]
    rcases p.read_cases (show ControlRecord.size ≠ 0 by decide) with
      ⟨q, hread, hcontents⟩ | ⟨hread, -⟩
    · rw [hread]
      exact Or.inl ⟨rfl, hcontents⟩
    · rw [hread]
      exact Or.inr ⟨_, rfl, rfl⟩

/-- **Closing takes nothing out of a pipe.** -/
theorem contents_close (fd : Fd) (h : PipedHost) :
    (answer (.close fd) h).2.contents = h.contents := by
  show ((h.host.close fd).pipes[0]?.map Host.Pipe.contents).getD [] =
    (h.host.pipes[0]?.map Host.Pipe.contents).getD []
  unfold Host.close
  cases h.host.find? fd with
  | none => rfl
  | some d =>
      cases hd : d.target with
      | pipeReader id | pipeWriter id =>
          simp only [hd, Host.modifyPipe, List.getElem?_modify]
          cases h.host.pipes[0]? with
          | none => rfl
          | some p => by_cases hid : id = 0 <;> simp [hid, Host.Pipe.contents]
      | socket id =>
          simp only [hd]
          rw [(Host.samePipes_closeEndpoint _ id).pipes]

/-- Both ends are open, and the pipe between them is in use. -/
structure InUse (h : PipedHost) : Prop where
  reader : ∃ d, h.host.find? PipeHost.readEnd = some d
  writer : ∃ d, h.host.find? PipeHost.writeEnd = some d
  pipe : ∃ p, h.pipe? = some p ∧ p.InUse

/-- What there is at the reading end of a pipe in use. -/
theorem InUse.at_reader (hopen : h.InUse) :
    ∃ d p, h.host.find? PipeHost.readEnd = some d ∧ h.pipe? = some p ∧ p.InUse := by
  obtain ⟨d, hd⟩ := hopen.reader
  obtain ⟨p, hp⟩ := hopen.pipe
  exact ⟨d, p, hd, hp⟩

/-- What there is at its writing end. -/
theorem InUse.at_writer (hopen : h.InUse) :
    ∃ d p, h.host.find? PipeHost.writeEnd = some d ∧ h.pipe? = some p ∧ p.InUse := by
  obtain ⟨d, hd⟩ := hopen.writer
  obtain ⟨p, hp⟩ := hopen.pipe
  exact ⟨d, p, hd, hp⟩

/-- A host with the same descriptors and a pipe in use is in use as well. -/
theorem InUse.congr (hopen : h.InUse) {k : PipedHost}
    (hk : k.host.descriptors = h.host.descriptors) (hp : k.pipe? = some p) (hused : p.InUse) :
    k.InUse where
  reader := by
    obtain ⟨d, hd⟩ := hopen.reader
    exact ⟨d, (h.host.find?_congr hk _).trans hd⟩
  writer := by
    obtain ⟨d, hd⟩ := hopen.writer
    exact ⟨d, (h.host.find?_congr hk _).trans hd⟩
  pipe := ⟨p, hp, hused⟩

/-- Writing closes no end. -/
theorem InUse.write (hopen : h.InUse) (data : Bytes) :
    (answer (.write PipeHost.writeEnd data) h).2.InUse := by
  obtain ⟨d, p, hd, hp, hused⟩ := hopen.at_writer
  exact hopen.congr (h.host.descriptors_write _ data) (write_of_pipe hd hp data).2
    (hused.write data)

/-- Nor does reading. -/
theorem InUse.read (hopen : h.InUse) (size : Nat) :
    (answer (.read PipeHost.readEnd size) h).2.InUse := by
  obtain ⟨d, p, hd, hp, hused⟩ := hopen.at_reader
  exact hopen.congr (h.host.descriptors_read _ size) (read_of_pipe hd hp size).2
    (hused.read size)

/-- A record finds room. -/
def hasRoom (h : PipedHost) : Bool := h.pipe?.any fun p => p.hasRoom ControlRecord.size

/-- What writing a record comes to while both ends are open. -/
theorem InUse.write_record (hopen : h.InUse) (r : ControlRecord) :
    (answer (.write PipeHost.writeEnd r.encode) h).1 =
      if h.hasRoom then .ok (ControlRecord.size : Int) else .error Errno.wouldBlock := by
  obtain ⟨d, p, hd, hp, hused⟩ := hopen.at_writer
  obtain ⟨hne, hshort⟩ := r.encode_short
  have hroom : h.hasRoom = p.hasRoom ControlRecord.size := by simp [hasRoom, hp]
  rw [(write_of_pipe hd hp r.encode).1, Host.Pipe.write_short hused.readerOpen hne hshort,
    ControlRecord.length_encode, hroom]

/-- **A full pipe says so**, whatever is unread on its pages. -/
theorem InUse.hasRoom_eq_false (hopen : h.InUse)
    (hlong : Host.Pipe.capacity < h.contents.length + ControlRecord.size) : h.hasRoom = false := by
  obtain ⟨p, hp, hused⟩ := hopen.pipe
  rw [contents_of_pipe hp] at hlong
  simp [hasRoom, hp, hused.sound.hasRoom_eq_false (by decide) hlong]

/-- What reading a record comes to while both ends are open: an empty pipe says so. -/
theorem InUse.read_record (hopen : h.InUse) :
    (h.contents = [] → (answer (.read PipeHost.readEnd ControlRecord.size) h).1 =
      .error Errno.wouldBlock) ∧
    (h.contents ≠ [] → ∃ received,
      (answer (.read PipeHost.readEnd ControlRecord.size) h).1 = .ok received) := by
  obtain ⟨d, p, hd, hp, hused⟩ := hopen.at_reader
  rw [contents_of_pipe hp, (read_of_pipe hd hp ControlRecord.size).1]
  refine ⟨fun hempty => ?_, hused.read_of_some (by decide)⟩
  rw [hused.read_of_empty (by decide) hempty]

/-- What happens elsewhere on the host: its sockets, and the failures of the next waits. -/
structure Elsewhere where
  endpoints : List Host.Endpoint := []
  waitFailures : List Errno := []

/-- The host after something has happened elsewhere. -/
def elsewhere (o : Elsewhere) (h : PipedHost) : PipedHost :=
  h.follow { h.host with endpoints := o.endpoints, waitFailures := o.waitFailures } fun _ hd => hd

/-- What happens elsewhere leaves the pipe in use. -/
theorem InUse.elsewhere (hopen : h.InUse) (o : Elsewhere) : (h.elsewhere o).InUse := by
  obtain ⟨p, hp, hused⟩ := hopen.pipe
  exact hopen.congr rfl hp hused

/-- A host that has just made a pipe. -/
def start : PipedHost where
  host := (({} : Host).newPipe true true).2
  reader := by decide
  writer := by decide

/-- A pipe that has just been made is in use. -/
theorem inUse_start : start.InUse where
  reader := ⟨_, rfl⟩
  writer := ⟨_, rfl⟩
  pipe := ⟨.empty, rfl, rfl, rfl, Nat.zero_le _, fun _ hpage => nomatch hpage⟩

end PipedHost

/-- **The pipe of a host as a control channel.** -/
def hostPipe : ControlPipe PipedHost PipedHost.Elsewhere where
  kernel := ⟨PipedHost.answer⟩
  initial := PipedHost.start
  outside := PipedHost.elsewhere
  sender := ⟨PipeHost.writeEnd⟩
  receiver := ⟨PipeHost.readEnd⟩
  contents := PipedHost.contents
  contents_initial := rfl
  contents_outside := fun _ _ => rfl
  contents_poll := by
    intro slots timeout h
    show (((h.host.poll slots).2.pipes[0]?).map Host.Pipe.contents).getD [] = h.contents
    rw [(h.host.samePipes_poll slots).pipes]
    rfl
  contents_close := PipedHost.contents_close
  write_cases := PipedHost.write_cases
  read_cases := PipedHost.read_cases

end ReceiveReactor
