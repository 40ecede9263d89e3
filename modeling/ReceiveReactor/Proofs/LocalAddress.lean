import Mathlib.Data.List.DropRight
import ReceiveReactor.Proofs.Turnover

/-!
# The address that a handle remembers

A handle remembers the address of the last bind that succeeded.  That is the address of the
socket it has, unless this socket was opened **next to an address that was remembered**: then
the handle tells the address of a socket that is closed for its own.

* `sinceOpened`, `LastBind` — the life of the socket at hand, and the bind that an address
  comes from;
* `Ownership.Kept`, `Ownership.Turnover.step` — what one operation keeps;
* `Ownership.kept_life` — what any number of them keeps;
* `Ownership.address_of_owned_iff` — **exactly when** the address is the socket's own;
* `Ownership.reopened_tells_old_address` — a handle where it is not.
-/

namespace ReceiveReactor

/-! ## The log of a socket -/

/-- No socket is opened by binding one. -/
theorem opens_of_bind {fd : Fd} {wanted : Address} {named : Except Errno StoredAddress}
    {back : List Exchange} (hback : ∀ e ∈ back, e.opens = false) :
    ∀ e ∈ (⟨.bind fd wanted.toRaw, .ok ()⟩ :: ⟨.getsockname fd, named⟩ :: back : List Exchange),
      e.opens = false :=
  List.forall_mem_cons.mpr ⟨rfl, List.forall_mem_cons.mpr ⟨rfl, hback⟩⟩

/-- What was exchanged since a socket was opened last. -/
def sinceOpened (log : List Exchange) : List Exchange := log.rtakeWhile fun e => !e.opens

section SinceOpened

variable {log more : List Exchange}

/-- What happened since the last opening is the end of what happened. -/
theorem sinceOpened_suffix (log : List Exchange) : sinceOpened log <:+ log :=
  List.rtakeWhile_suffix _ log

/-- As long as nothing is opened, what happened since grows with the log. -/
theorem sinceOpened_append (hmore : ∀ e ∈ more, e.opens = false) :
    sinceOpened (log ++ more) = sinceOpened log ++ more := by
  have hall : ∀ e ∈ more.reverse, (!e.opens) = true := fun e he => by
    rw [hmore e (List.mem_reverse.mp he)]
    rfl
  rw [sinceOpened, List.rtakeWhile, List.reverse_append, List.takeWhile_append_of_pos hall,
    List.reverse_append, List.reverse_reverse]
  rfl

/-- A socket that is opened starts anew. -/
theorem sinceOpened_append_cons {opening : Exchange} (hopening : opening.opens = true)
    (hmore : ∀ e ∈ more, e.opens = false) : sinceOpened (log ++ opening :: more) = more := by
  have hnone : sinceOpened (log ++ [opening]) = [] := by
    rw [sinceOpened, List.rtakeWhile_concat_neg _ _ _ (by simp [hopening])]
  rw [← List.singleton_append, ← List.append_assoc, sinceOpened_append hmore, hnone,
    List.nil_append]

end SinceOpened

/-- An address is **the one recorded at the last bind** that succeeded, which bound a given
descriptor. -/
def LastBind (fd : Fd) (a : Address) (log : List Exchange) : Prop :=
  ∃ front wanted named back,
    log = front ++ ⟨.bind fd wanted.toRaw, .ok ()⟩ :: ⟨.getsockname fd, named⟩ :: back ∧
      a = recorded wanted named ∧ ∀ e ∈ back, e.binds = false

namespace LastBind

variable {fd : Fd} {a : Address} {log more : List Exchange}

/-- The last bind stays the last as long as nothing is bound. -/
theorem append (h : LastBind fd a log) (hmore : ∀ e ∈ more, e.binds = false) :
    LastBind fd a (log ++ more) := by
  obtain ⟨front, wanted, named, back, rfl, ha, hback⟩ := h
  refine ⟨front, wanted, named, back ++ more, by simp, ha, fun e he => ?_⟩
  exact (List.mem_append.mp he).elim (hback e) (hmore e)

/-- It stays the last whatever happened before. -/
theorem prepend (h : LastBind fd a log) (front : List Exchange) :
    LastBind fd a (front ++ log) := by
  obtain ⟨middle, wanted, named, back, rfl, ha, hback⟩ := h
  exact ⟨front ++ middle, wanted, named, back, by simp, ha, hback⟩

/-- If there is a last bind, then there is a bind of that descriptor. -/
theorem exists_binds (h : LastBind fd a log) :
    ∃ e ∈ log, e.binds = true ∧ ∃ raw, e.call = .bind fd raw := by
  obtain ⟨front, wanted, named, back, rfl, -, -⟩ := h
  exact ⟨_, List.mem_append_right _ List.mem_cons_self, rfl, _, rfl⟩

/-- An end of the log in which some bind succeeds has the last one. -/
theorem of_suffix {later : List Exchange} (h : LastBind fd a log) (hlater : later <:+ log)
    {e : Exchange} (he : e ∈ later) (hbinds : e.binds = true) : LastBind fd a later := by
  obtain ⟨front, wanted, named, back, hlog, ha, hback⟩ := h
  obtain ⟨earlier, rfl⟩ := hlater
  rcases List.append_eq_append_iff.mp hlog with ⟨middle, -, hend⟩ | ⟨middle, -, hend⟩
  · exact ⟨middle, wanted, named, back, hend, ha, hback⟩
  · cases middle with
    | nil => exact ⟨[], wanted, named, back, hend.symm, ha, hback⟩
    | cons first middle =>
        -- Then the end starts behind the last bind, and has none.
        obtain ⟨-, hrest⟩ := List.cons.inj hend
        have hmem : e ∈ ⟨.getsockname fd, named⟩ :: back :=
          hrest ▸ List.mem_append_right middle he
        rcases List.mem_cons.mp hmem with rfl | hmem
        · cases hbinds
        · rw [hback e hmem] at hbinds
          cases hbinds

end LastBind

namespace Ownership

/-! ## What one operation keeps -/

/-- What holds of a holder and all that was exchanged for it. -/
structure Kept (holder : Holder) (log : List Exchange) : Prop where
  /-- Since its socket was opened no other one was bound. -/
  own : ∀ fd ∈ holder.fds, ∀ e ∈ sinceOpened log, e.binds = true → ∃ raw, e.call = .bind fd raw
  /-- What it remembers is **the address of the last bind** that succeeded. -/
  last : ∀ a, holder.address? = some a → ∃ fd, LastBind fd a log

/-- The address that a holder remembers, if it has a socket and remembers one, was recorded
at the last bind **of that socket**. -/
def Belongs (holder : Holder) (log : List Exchange) : Prop :=
  ∀ fd ∈ holder.fds, ∀ a, holder.address? = some a → LastBind fd a (sinceOpened log)

/-- The address is the socket's own unless the socket was never bound. -/
theorem Kept.belongs_iff {holder : Holder} {log : List Exchange} (h : Kept holder log) :
    Belongs holder log ↔ holder.fds = [] ∨ holder.address? = none ∨
      ∃ e ∈ sinceOpened log, e.binds = true := by
  constructor
  · intro hbelongs
    cases hfds : holder.fds with
    | nil => exact Or.inl rfl
    | cons fd others =>
        cases haddress : holder.address? with
        | none => exact Or.inr (Or.inl rfl)
        | some a =>
            obtain ⟨e, he, hbinds, -⟩ :=
              (hbelongs fd (hfds ▸ List.mem_cons_self) a haddress).exists_binds
            exact Or.inr (Or.inr ⟨e, he, hbinds⟩)
  · intro hcases fd hfd a ha
    rcases hcases with hnone | hnone | ⟨e, he, hbinds⟩
    · rw [hnone] at hfd
      cases hfd
    · rw [hnone] at ha
      cases ha
    · obtain ⟨other, hlast⟩ := h.last a ha
      have hown := hlast.of_suffix (sinceOpened_suffix log) he hbinds
      -- The last bind is one since the socket was opened, so it was this socket that it bound.
      obtain ⟨e', he', hbinds', raw, hcall⟩ := hown.exists_binds
      obtain ⟨raw', hcall'⟩ := h.own fd hfd e' he' hbinds'
      obtain ⟨rfl, -⟩ := Call.bind.inj (hcall.symm.trans hcall')
      exact hown

section Turnovers

variable {o : Operation} {before holder : Holder} {t : Turn} {log more : List Exchange}

/-- Where nothing is opened or bound, an address that was kept is kept, and one that belongs
belongs. -/
theorem kept_of_quiet (hkept : Kept before log) (hbinds : ∀ e ∈ more, e.binds = false)
    (hfds : ∀ fd ∈ holder.fds, fd ∈ before.fds ∧ ∀ e ∈ more, e.opens = false)
    (haddress : holder.address? = none ∨ holder.address? = before.address?) :
    Kept holder (log ++ more) ∧ (Belongs before log → Belongs holder (log ++ more)) := by
  have hsince : ∀ fd ∈ holder.fds, sinceOpened (log ++ more) = sinceOpened log ++ more :=
    fun fd hfd => sinceOpened_append (hfds fd hfd).2
  have hsame : ∀ a, holder.address? = some a → before.address? = some a := by
    intro a ha
    rcases haddress with hnone | hsame
    · rw [hnone] at ha
      cases ha
    · exact hsame ▸ ha
  refine ⟨⟨fun fd hfd e he hbound => ?_, fun a ha => ?_⟩, fun hbelongs fd hfd a ha => ?_⟩
  · rw [hsince fd hfd] at he
    rcases List.mem_append.mp he with hpast | hmore
    · exact hkept.own fd (hfds fd hfd).1 e hpast hbound
    · exact absurd ((hbinds e hmore).symm.trans hbound) Bool.false_ne_true
  · obtain ⟨fd, hlast⟩ := hkept.last a (hsame a ha)
    exact ⟨fd, hlast.append hbinds⟩
  · rw [hsince fd hfd]
    exact (hbelongs fd (hfds fd hfd).1 a (hsame a ha)).append hbinds

/-- A socket that is opened has no address yet; what is remembered is another one's. -/
theorem kept_of_opened {fd : Fd} {opening : Exchange} {tuning : List Exchange}
    (hkept : Kept before log) (hfds : holder.fds = [fd])
    (haddress : holder.address? = before.address?) (hopening : opening.opens = true)
    (hbinds : opening.binds = false) (htuning : ∀ e ∈ tuning, e.Still) :
    Kept holder (log ++ opening :: tuning) ∧
      (Belongs holder (log ++ opening :: tuning) ↔ before.address? = none) := by
  have hsince : sinceOpened (log ++ opening :: tuning) = tuning :=
    sinceOpened_append_cons hopening fun e he => (htuning e he).1
  have hnone : ∀ e ∈ tuning, e.binds ≠ true := fun e he hbound =>
    absurd ((htuning e he).2.symm.trans hbound) Bool.false_ne_true
  have hkept' : Kept holder (log ++ opening :: tuning) := by
    refine ⟨fun fd hfd e he hbound => ?_, fun a ha => ?_⟩
    · rw [hsince] at he
      exact absurd hbound (hnone e he)
    · obtain ⟨fd, hlast⟩ := hkept.last a (haddress ▸ ha)
      refine ⟨fd, hlast.append (List.forall_mem_cons.mpr ⟨hbinds, fun e he => ?_⟩)⟩
      exact (htuning e he).2
  refine ⟨hkept', ?_⟩
  rw [hkept'.belongs_iff, hsince, hfds, haddress]
  constructor
  · rintro (hnil | hnothing | ⟨e, he, hbound⟩)
    · cases hnil
    · exact hnothing
    · exact absurd hbound (hnone e he)
  · exact fun hnothing => Or.inr (Or.inl hnothing)

/-- A socket that was bound since it was opened has the address of the last bind. -/
theorem kept_of_bound {past back : List Exchange} {fd : Fd} {wanted : Address}
    {named : Except Errno StoredAddress} (hfds : holder.fds = [fd])
    (haddress : holder.address? = some (recorded wanted named))
    (hsince : sinceOpened log =
      past ++ ⟨.bind fd wanted.toRaw, .ok ()⟩ :: ⟨.getsockname fd, named⟩ :: back)
    (hpast : ∀ e ∈ past, e.binds = true → ∃ raw, e.call = .bind fd raw)
    (hback : ∀ e ∈ back, e.binds = false) : Kept holder log ∧ Belongs holder log := by
  have hlast : LastBind fd (recorded wanted named) (sinceOpened log) :=
    ⟨past, wanted, named, back, hsince, rfl, hback⟩
  have hheld : ∀ other ∈ holder.fds, other = fd := fun other hother => by
    rwa [hfds, List.mem_singleton] at hother
  have hanswer : ∀ a, holder.address? = some a → a = recorded wanted named := fun a ha =>
    (Option.some.inj (haddress.symm.trans ha)).symm
  refine ⟨⟨fun other hother e he hbinds => ?_, fun a ha => ⟨fd, ?_⟩⟩, fun other hother a ha => ?_⟩
  · rw [hheld other hother]
    rw [hsince] at he
    rcases List.mem_append.mp he with hmem | hmem
    · exact hpast e hmem hbinds
    · rcases List.mem_cons.mp hmem with rfl | hmem
      · exact ⟨_, rfl⟩
      · rcases List.mem_cons.mp hmem with rfl | hmem
        · cases hbinds
        · exact absurd ((hback e hmem).symm.trans hbinds) Bool.false_ne_true
  · obtain ⟨front, hsplit⟩ := sinceOpened_suffix log
    rw [hanswer a ha, ← hsplit]
    exact hlast.prepend front
  · rw [hheld other hother, hanswer a ha]
    exact hlast

/-- **One operation keeps it.**  An address that was the socket's own is so after it, unless a
socket was opened next to it. -/
theorem Turnover.step (h : Turnover o before t more) (hkept : Kept before log) :
    Kept t.holder (log ++ more) ∧ (Belongs before log → (Belongs t.holder (log ++ more) ↔
      ¬ (o.isOpen = true ∧ before.address? ≠ none ∧ t.succeeded = true))) := by
  cases h with
  | quiet hopen hbinds hfds haddress =>
      obtain ⟨hkept', hbelongs'⟩ := kept_of_quiet hkept hbinds hfds haddress
      refine ⟨hkept', fun hbelongs => iff_of_true (hbelongs' hbelongs) ?_⟩
      rintro ⟨hother, -, hsucceeded⟩
      rcases hopen with hnot | hfailed
      · exact absurd (hnot.symm.trans hother) Bool.false_ne_true
      · exact absurd (hfailed.symm.trans hsucceeded) Bool.false_ne_true
  | opened hopen hsucceeded hfds haddress hopening hbinds htuning =>
      obtain ⟨hkept', hbelongs'⟩ := kept_of_opened hkept hfds haddress hopening hbinds htuning
      refine ⟨hkept', fun _ => hbelongs'.trans ⟨fun hnone hboth => hboth.2.1 hnone, fun hnot => ?_⟩⟩
      by_contra hsome
      exact hnot ⟨hopen, hsome, hsucceeded⟩
  | bound hopen hbefore hfds haddress =>
      have hback : ∀ e ∈ ([] : List Exchange), e.Still := List.forall_mem_nil _
      obtain ⟨hkept', hbelongs'⟩ := kept_of_bound hfds haddress
        (sinceOpened_append (opens_of_bind fun e he => (hback e he).1))
        (hkept.own _ (hbefore ▸ List.mem_singleton_self _)) fun e he => (hback e he).2
      refine ⟨hkept', fun _ => iff_of_true hbelongs' fun hboth => ?_⟩
      exact absurd (hopen.symm.trans hboth.1) Bool.false_ne_true
  | setUp hopen hfds haddress hopening htuning hback =>
      obtain ⟨hkept', hbelongs'⟩ := kept_of_bound hfds haddress
        (sinceOpened_append_cons hopening (List.forall_mem_append.mpr
          ⟨fun e he => (htuning e he).1, opens_of_bind fun e he => (hback e he).1⟩))
        (fun e he hbound => absurd ((htuning e he).2.symm.trans hbound) Bool.false_ne_true)
        fun e he => (hback e he).2
      refine ⟨hkept', fun _ => iff_of_true hbelongs' fun hboth => ?_⟩
      exact absurd (hopen.symm.trans hboth.1) Bool.false_ne_true

end Turnovers

/-! ## Runs -/

/-- A holder, the host, and what was exchanged between them so far. -/
structure Life (σ : Type) where
  holder : Holder
  host : σ
  log : List Exchange := []

section Runs

variable {σ : Type} (k : Kernel σ)

/-- One more operation. -/
def Life.next (x : Life σ) (o : Operation) : Life σ :=
  { holder := ((o.turn x.holder).run k x.host).1.holder
    host := ((o.turn x.holder).run k x.host).2
    log := x.log ++ (o.turn x.holder).exchanges k x.host }

/-- A handle that starts without a descriptor, or with one that somebody opened or accepted,
after some operations. -/
def life (s : σ) (born : Option Fd) (os : List Operation) : Life σ :=
  os.foldl (Life.next k) { holder := .handle { fd := born }, host := s }

/-- An open that succeeds **while an address is remembered**. -/
def Reopens (x : Life σ) (o : Operation) : Prop :=
  o.isOpen = true ∧ x.holder.address? ≠ none ∧
    ((o.turn x.holder).run k x.host).1.succeeded = true

variable (s : σ) (born : Option Fd)

/-- A longer life ends with its last operation. -/
theorem life_concat (os : List Operation) (o : Operation) :
    life k s born (os ++ [o]) = (life k s born os).next k o :=
  List.foldl_concat ..

/-- **A handle keeps an address only of a bind**, through any operations. -/
theorem kept_life (os : List Operation) :
    Kept (life k s born os).holder (life k s born os).log := by
  induction os using List.reverseRecOn with
  | nil => exact ⟨fun _ _ _ he => absurd he List.not_mem_nil, nofun⟩
  | append_singleton os o ih =>
      rw [life_concat]
      exact (((o.turnover _).run k _).step ih).1

/-- Whether the address is still the socket's own after one more operation. -/
theorem belongs_next_iff (os : List Operation) (o : Operation)
    (hbelongs : Belongs (life k s born os).holder (life k s born os).log) :
    Belongs (life k s born (os ++ [o])).holder (life k s born (os ++ [o])).log ↔
      ¬ Reopens k (life k s born os) o := by
  rw [life_concat]
  exact (((o.turnover _).run k _).step (kept_life k s born os)).2 hbelongs

/-- What the address that a holder remembers says about its socket. -/
structure Remembers (holder : Holder) (log : List Exchange) : Prop where
  last : ∀ a, holder.address? = some a → ∃ fd, LastBind fd a log
  belongs_iff : Belongs holder log ↔ holder.fds = [] ∨ holder.address? = none ∨
    ∃ e ∈ sinceOpened log, e.binds = true

/-- **Whose address it is.**  Whatever is done with a handle and whatever the kernel answers,
the handle remembers the address of the last bind that succeeded.  That is the address of the
socket it has exactly if this socket was ever bound; and it is so **all the time** exactly if
no socket is opened while an address is remembered. -/
theorem address_of_owned_iff (os : List Operation) :
    Remembers (life k s born os).holder (life k s born os).log ∧
      ((∀ before, before <+: os →
          Belongs (life k s born before).holder (life k s born before).log) ↔
        ∀ before o, before ++ [o] <+: os → ¬ Reopens k (life k s born before) o) := by
  have hkept := kept_life k s born os
  refine ⟨⟨hkept.last, hkept.belongs_iff⟩, fun hall before o hprefix => ?_, fun hnone => ?_⟩
  · have hshorter : before <+: os := (List.prefix_append before [o]).trans hprefix
    exact (belongs_next_iff k s born before o (hall before hshorter)).mp (hall _ hprefix)
  · intro before hprefix
    induction before using List.reverseRecOn with
    | nil => exact fun _ _ => nofun
    | append_singleton before o ih =>
        have hshorter : before <+: os := (List.prefix_append before [o]).trans hprefix
        exact (belongs_next_iff k s born before o (ih hshorter)).mpr (hnone before o hprefix)

end Runs

/-- A kernel that makes a socket, binds it, and makes another. -/
def reopenedScript : Script :=
  { replies :=
      [ { opens := true }, {},
        { address := some ([2, 0, 31, 144, 127, 0, 0, 1] ++ Bytes.zeros 8, 16) },
        { opens := true } ] }

/-- A handle is opened, bound, closed and opened again. -/
def reopenedOperations : List Operation :=
  [.open .ipv4 .datagram .udp, .bind "127.0.0.1" 8080, .close, .open .ipv4 .datagram .udp]

/-- It tells **the address of the socket that was closed**, and has one that was never bound. -/
theorem reopened_tells_old_address :
    (life Script.kernel reopenedScript none reopenedOperations).holder =
        .handle ⟨some (Script.descriptor 2), some (.v4 ⟨#v[127, 0, 0, 1], 8080⟩)⟩ ∧
      (∀ e ∈ sinceOpened (life Script.kernel reopenedScript none reopenedOperations).log,
        e.binds = false) ∧
      ¬ Belongs (life Script.kernel reopenedScript none reopenedOperations).holder
        (life Script.kernel reopenedScript none reopenedOperations).log := by
  have hholder : (life Script.kernel reopenedScript none reopenedOperations).holder =
      .handle ⟨some (Script.descriptor 2), some (.v4 ⟨#v[127, 0, 0, 1], 8080⟩)⟩ := by
    decide
  have hunbound : ∀ e ∈
      sinceOpened (life Script.kernel reopenedScript none reopenedOperations).log,
      e.binds = false := by
    decide
  refine ⟨hholder, hunbound, fun hbelongs => ?_⟩
  rw [hholder] at hbelongs
  obtain ⟨e, he, hbinds, -⟩ := (hbelongs _ (List.mem_singleton_self _) _ rfl).exists_binds
  exact absurd ((hunbound e he).symm.trans hbinds) Bool.false_ne_true

end Ownership

end ReceiveReactor
