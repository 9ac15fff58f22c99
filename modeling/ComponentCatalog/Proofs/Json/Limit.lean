import ComponentCatalog.Json.Read

namespace ComponentCatalog.Json

def opensContainer (c : Char) : Bool :=
  c == '[' || c == '\x7b'

def AreDigits (n : Nat) (ds : List Char) : Prop :=
  ds.length = n ∧ ∀ d ∈ ds, (Read.digit? d).isSome

-- So many digits stand in a row somewhere in the text, or at its end.
def HasDigits (n : Nat) (cs : List Char) : Prop :=
  ∃ ds, ds <:+: cs ∧ AreDigits n ds

def EndsInDigits (n : Nat) (cs : List Char) : Prop :=
  ∃ ds, ds <:+ cs ∧ AreDigits n ds

-- What the text holds too much of, if it is refused like this.
def ReadError.Exceeds (cs : List Char) : ReadError → Prop
  | .malformed       => True
  | .tooDeep _       => Read.depthLimit < cs.countP opensContainer
  | .tooManyDigits n => Text.digitLimit < n ∧ HasDigits n cs

variable {cs ds : List Char} {c : Char} {n : Nat} {e : ReadError}

theorem EndsInDigits.hasDigits (h : EndsInDigits n cs) : HasDigits n cs := by
  obtain ⟨ds, hs, hd⟩ := h
  exact ⟨ds, hs.isInfix, hd⟩

theorem HasDigits.append (h : HasDigits n cs) : HasDigits n (cs ++ ds) := by
  obtain ⟨es, hs, hd⟩ := h
  exact ⟨es, hs.trans (List.prefix_append cs ds).isInfix, hd⟩

theorem EndsInDigits.concat (h : EndsInDigits n cs) (hc : (Read.digit? c).isSome) :
    EndsInDigits (n + 1) (cs ++ [c]) := by
  obtain ⟨ds, ⟨before, rfl⟩, hl, hd⟩ := h
  refine ⟨ds ++ [c], ⟨before, (List.append_assoc ..).symm⟩, by simp [hl], fun d hm => ?_⟩
  rcases List.mem_append.mp hm with hm | hm
  case inl => exact hd d hm
  case inr => exact List.mem_singleton.mp hm ▸ hc

theorem endsInDigits_zero : EndsInDigits 0 cs :=
  ⟨[], List.nil_suffix, rfl, by simp⟩

theorem ReadError.Exceeds.append (h : e.Exceeds cs) : e.Exceeds (cs ++ ds) := by
  cases e
  case malformed     => exact trivial
  case tooManyDigits => exact ⟨h.1, h.2.append⟩
  case tooDeep       =>
    rw [Exceeds, List.countP_append]
    exact Nat.lt_add_right _ h

namespace Read

variable {α β : Type} {P : α → Prop} {Q : β → Prop} {x : Except ReadError α}
  {f : α → Except ReadError β} {s : State} {m : Numeral} {part : Part} {stack : List Frame}
  {mode : Mode} {p : Text.Point} {t : Text.Raw} {v : RawJson}

-- What comes out satisfies `P`, or else the text exceeds a limit or is malformed.
def Yields (cs : List Char) (P : α → Prop) : Except ReadError α → Prop
  | .ok a    => P a
  | .error e => e.Exceeds cs

theorem Yields.bind (hx : Yields cs P x) (hf : ∀ a, P a → Yields cs Q (f a)) :
    Yields cs Q (x >>= f) := by
  cases x
  case error => exact hx
  case ok a  => exact hf a hx

theorem Yields.discard (hx : Yields cs P x) : Yields cs (fun _ => True) (discard x) := by
  cases x
  case error => exact hx
  case ok    => exact trivial

theorem Yields.append (hx : Yields cs P x) : Yields (cs ++ ds) P x := by
  cases x
  case error => exact hx.append
  case ok    => exact hx

-- The digits of a numeral that may be an integer stand in the text, before its point they are last.
def Numeral.Fits (m : Numeral) (cs : List Char) : Part → Prop
  | .sign | .zero | .whole => EndsInDigits m.wholeDigits cs
  | _                      => HasDigits m.wholeDigits cs

-- Every open container was opened by a bracket.
structure State.Fits (s : State) (cs : List Char) : Prop where
  depth   : s.stack.length ≤ cs.countP opensContainer
  numeral : ∀ part m, s.mode = .numeral part m → m.Fits cs part

theorem Numeral.Fits.hasDigits (h : m.Fits cs part) : HasDigits m.wholeDigits cs := by
  cases part
  case sign  => exact EndsInDigits.hasDigits h
  case zero  => exact EndsInDigits.hasDigits h
  case whole => exact EndsInDigits.hasDigits h
  all_goals exact h

theorem fits_next? {m' : Numeral} {part' : Part} (hm : m.Fits cs part)
    (h : m.next? part c = some (part', m')) : m'.Fits (cs ++ [c]) part' := by
  have hh : HasDigits m.wholeDigits (cs ++ [c]) := hm.hasDigits.append
  have hw : EndsInDigits m.wholeDigits cs → (digit? c).isSome →
      EndsInDigits (m.wholeDigits + 1) (cs ++ [c]) := .concat
  unfold Numeral.next? Numeral.next?.pointOrMark Numeral.next?.markOnly at h
  repeat' split at h
  all_goals cases h
  all_goals try exact hh
  case h_1.isTrue hd _  => exact hw hm (by simp [hd])
  case h_1.isFalse hd _ => exact hw hm (by simp [hd])
  case h_2 hd           => exact hw hm (by simp [hd])

theorem yields_integer (hm : HasDigits m.wholeDigits cs) :
    Yields cs (fun _ => True) m.integer := by
  rw [Numeral.integer]
  split
  case isTrue hl => exact ⟨hl, hm⟩
  case isFalse   => exact trivial

theorem yields_finish_numeral (hm : m.Fits cs part) :
    Yields cs (fun _ => True) (m.finish part) := by
  have hi : Yields cs (fun _ => True) m.integer := yields_integer hm.hasDigits
  unfold Numeral.finish
  split
  case h_1 => exact hi
  case h_2 => exact hi
  case h_3 => exact trivial
  case h_4 => exact trivial
  case h_5 => exact trivial
  all_goals
    split
    case isTrue  => exact hi.discard.bind fun _ _ => trivial
    case isFalse => exact trivial

-- A mode that is not within a numeral.
def Mode.Plain (mode : Mode) : Prop :=
  ∀ part m, mode ≠ .numeral part m

theorem fits_of_plain (hm : s.mode.Plain) (hd : s.stack.length ≤ cs.countP opensContainer) :
    s.Fits cs :=
  ⟨hd, fun part m he => absurd he (hm part m)⟩

variable {cs' : List Char} (hd : stack.length ≤ cs.countP opensContainer)

include hd

theorem depth_concat : stack.length ≤ (cs ++ [c]).countP opensContainer := by
  rw [List.countP_append]
  exact Nat.le_add_right_of_le hd

theorem yields_push {frame : Frame} (hc : opensContainer c) (hm : mode.Plain) :
    Yields (cs ++ [c]) (State.Fits · (cs ++ [c])) (push stack frame mode) := by
  have hl : stack.length + 1 ≤ (cs ++ [c]).countP opensContainer := by
    simpa [hc] using hd
  rw [push]
  split
  case isTrue hf => exact Nat.lt_of_le_of_lt hf hl
  case isFalse   => exact fits_of_plain hm hl

theorem yields_beginValue :
    Yields (cs ++ [c]) (State.Fits · (cs ++ [c])) (beginValue stack c) := by
  have hd' : stack.length ≤ (cs ++ [c]).countP opensContainer := depth_concat hd
  unfold beginValue beginValue.word
  split
  case h_1 => exact fits_of_plain nofun hd'
  case h_2 => exact yields_push hd rfl nofun
  case h_3 => exact yields_push hd rfl nofun
  case h_4 => exact fits_of_plain nofun hd'
  case h_5 => exact fits_of_plain nofun hd'
  case h_6 => exact fits_of_plain nofun hd'
  case h_7 => exact fits_of_plain nofun hd'
  case h_8 => exact fits_of_plain nofun hd'
  case h_9 =>
    refine ⟨hd', ?_⟩
    rintro _ _ ⟨⟩
    exact endsInDigits_zero
  case h_10 =>
    split
    case h_2 => exact trivial
    case h_1 hn =>
      refine ⟨hd', ?_⟩
      rintro _ _ ⟨⟩
      have hz : Numeral.Fits { negative := false } cs .sign := endsInDigits_zero
      exact fits_next? hz hn

theorem yields_afterValue : Yields cs (State.Fits · cs) (afterValue stack v c) := by
  unfold afterValue
  repeat' split
  all_goals try exact trivial
  all_goals refine fits_of_plain nofun ?_
  all_goals grind

theorem yields_inText {members : Option Members} {written : Text.Raw} {escape : Escape} :
    Yields cs (State.Fits · cs) (inText stack members written p escape) := by
  unfold inText inText.text
  repeat' split
  all_goals first | exact trivial | exact fits_of_plain nofun hd

omit hd

theorem yields_beginKey {members : Members}
    (hd : s.stack.length ≤ cs.countP opensContainer) :
    Yields cs (State.Fits · cs) (step.beginKey s members c) := by
  unfold step.beginKey
  split
  case isTrue  => exact fits_of_plain nofun hd
  case isFalse => exact trivial

theorem length_setKey {key : Text.Raw} {members : Members} :
    (setKey key members stack).length = stack.length := by
  unfold setKey
  split <;> rfl

-- One case for each mode. Only a bracket deepens the stack, and only a digit lengthens a numeral.
theorem yields_step (hs : s.Fits cs) :
    Yields (cs ++ [p.shown]) (State.Fits · (cs ++ [p.shown])) (step s p) := by
  obtain ⟨mode, stack⟩ := s
  obtain ⟨hd, hn⟩ := hs
  dsimp only at hd hn
  have hd' : stack.length ≤ (cs ++ [p.shown]).countP opensContainer := depth_concat hd
  have htail : stack.tail.length ≤ (cs ++ [p.shown]).countP opensContainer := by
    rw [List.length_tail]
    exact Nat.le_trans (Nat.sub_le _ _) hd'
  cases mode <;> unfold step <;> dsimp only
  case value =>
    split
    case isTrue  => exact fits_of_plain nofun hd'
    case isFalse => exact yields_beginValue hd
  case element =>
    split
    case isTrue  => exact fits_of_plain nofun hd'
    case isFalse =>
      split
      case isTrue  => exact fits_of_plain nofun htail
      case isFalse => exact yields_beginValue hd
  case member =>
    split
    case isTrue  => exact fits_of_plain nofun hd'
    case isFalse =>
      split
      case isTrue  => exact fits_of_plain nofun htail
      case isFalse => exact yields_beginKey hd'
  case key members =>
    split
    case isTrue  => exact fits_of_plain nofun hd'
    case isFalse => exact yields_beginKey hd'
  case colon members key =>
    split
    case isTrue  => exact fits_of_plain nofun hd'
    case isFalse =>
      split
      case isTrue  => exact fits_of_plain nofun (by rw [length_setKey]; exact hd')
      case isFalse => exact trivial
  case text => exact yields_inText hd'
  case numeral part m =>
    have hm : m.Fits cs part := hn part m rfl
    split
    case h_1 he =>
      refine ⟨hd', ?_⟩
      rintro _ _ ⟨⟩
      exact fits_next? hm he
    case h_2 =>
      split
      case h_1 => exact fits_of_plain nofun hd'
      case h_2 => exact (yields_finish_numeral hm).append.bind fun _ _ => yields_afterValue hd'
  case word left v =>
    repeat' split
    all_goals first | exact trivial | exact fits_of_plain nofun hd'
  case done v => exact yields_afterValue hd'

theorem yields_foldlM (hs : s.Fits cs) :
    Yields (cs ++ t.map Text.Point.shown) (State.Fits · (cs ++ t.map Text.Point.shown))
      (t.foldlM step s) := by
  induction t generalizing s cs
  case nil         => exact (List.append_nil cs).symm ▸ hs
  case cons p t hi =>
    have he : cs ++ (p :: t).map Text.Point.shown =
        cs ++ [p.shown] ++ t.map Text.Point.shown := by simp
    rw [List.foldlM_cons, he]
    exact (yields_step hs).append.bind fun _ hs => hi hs

theorem yields_finish (hs : s.Fits cs) : Yields cs (fun _ => True) (finish s) := by
  unfold finish
  split
  case h_1      => exact trivial
  case h_2 hm =>
    refine (yields_finish_numeral (hs.numeral _ _ hm)).bind fun _ _ => ?_
    split <;> exact trivial
  case h_3      => exact trivial

end Read

variable {t : Text.Raw}

theorem yields_readRaw :
    Read.Yields (t.map Text.Point.shown) (fun _ => True) (readRaw t) := by
  have hs : Read.State.start.Fits [] := Read.fits_of_plain nofun (Nat.zero_le _)
  exact (Read.yields_foldlM hs).bind fun _ hs => Read.yields_finish hs

-- The other way round, the digits of a numeral are counted up to its end.
theorem foldlM_digits {m : Read.Numeral} (hd : ∀ d ∈ ds, (Read.digit? d).isSome) :
    ∃ m', (Text.Raw.ofChars ds).foldlM Read.step ⟨.numeral .whole m, []⟩ =
        .ok ⟨.numeral .whole m', []⟩ ∧
      m'.wholeDigits = m.wholeDigits + ds.length := by
  induction ds generalizing m
  case nil          => exact ⟨m, rfl, rfl⟩
  case cons d ds hi =>
    rw [List.forall_mem_cons] at hd
    obtain ⟨k, hk⟩ := Option.isSome_iff_exists.mp hd.1
    have hs : Read.step ⟨.numeral .whole m, []⟩ (.char d) =
        .ok ⟨.numeral .whole (m.whole k), []⟩ := by
      simp only [Read.step, Read.Numeral.next?, Text.Point.shown, hk]
    obtain ⟨m', hm, hl⟩ := hi (m := m.whole k) hd.2
    refine ⟨m', by rw [Text.Raw.ofChars, List.map_cons, List.foldlM_cons, hs]; exact hm, ?_⟩
    exact hl.trans (Nat.add_right_comm ..)

theorem readRaw_digits (hd : ∀ d ∈ ds, (Read.digit? d).isSome)
    (hl : Text.digitLimit < ds.length + 1) :
    readRaw (.ofChars ('1' :: ds)) = .error (.tooManyDigits (ds.length + 1)) := by
  let one : Read.Numeral := Read.Numeral.whole { negative := false } 1
  obtain ⟨m, hm, hw⟩ := foldlM_digits (m := one) hd
  have hn : m.wholeDigits = ds.length + 1 := by rw [hw, Nat.add_comm]; rfl
  have hs : Read.step .start (.char '1') = .ok ⟨.numeral .whole one, []⟩ := rfl
  have hf : (Text.Raw.ofChars ('1' :: ds)).foldlM Read.step .start =
      .ok ⟨.numeral .whole m, []⟩ := by
    rw [Text.Raw.ofChars, List.map_cons, List.foldlM_cons, hs]
    exact hm
  have he : m.finish .whole = .error (.tooManyDigits (ds.length + 1)) := by
    rw [Read.Numeral.finish, Read.Numeral.integer, hn, if_pos hl]
  simp only [readRaw, hf, Read.finish, he, bind, Except.bind]

theorem exceeds_of_readRaw (h : readRaw t = .error e) : e.Exceeds (t.map Text.Point.shown) := by
  have hy : Read.Yields (t.map Text.Point.shown) (fun _ => True) (readRaw t) := yields_readRaw
  rwa [h] at hy

end ComponentCatalog.Json
