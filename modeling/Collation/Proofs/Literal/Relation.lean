import Collation.Proofs.Literal.Plain

/-! Signs of relations among tokens. What relates two expressions stands for no value, and neither
does anything around it, so that tokens with such a sign are no literal. -/

namespace Collation.Literal

/-- Whether a token is a sign that relates, or holds one. No expression has a fault in it. -/
def Token.relates : Token → Bool
  | .symbol s =>
    [.less, .leftShift, .atMost, .atLeast, .equal, .unequal, .assign, .bind].contains s
  | .fault => true
  | _ => false

/-- Tokens without a sign that relates. -/
def IsUnrelated (ts : List Token) : Prop :=
  ∀ t ∈ ts, t.relates = false

theorem IsUnrelated.cons {t : Token} {ts : List Token} (ht : t.relates = false)
    (hts : IsUnrelated ts) : IsUnrelated (t :: ts) :=
  List.forall_mem_cons.mpr ⟨ht, hts⟩

/-- Only sums and differences combine to what can stand for a value. -/
theorem isPlain_of_combine {l r : Node} {s : Symbol} (h : (Reading.combine l s r).IsPlain) :
    (l.IsPlain ∧ r.IsPlain) ∧ (Token.symbol s).relates = false := by
  cases s with
  | plus | minus => exact ⟨Node.isPlain_of_plus h, rfl⟩
  | _ => exact absurd h (Node.not_isPlain_around _)

theorem isUnrelated_of_newlines {ts : List Token} (h : ts.all Token.isNewline) :
    IsUnrelated ts := by
  intro t ht
  cases t with
  | newline => rfl
  | _ => exact absurd (List.all_eq_true.mp h _ ht) nofun

namespace Reading

variable {α β : Type} {x : Reading α} {f : α → Reading β} {p : α → Prop} {q : β → Prop}
  {P P' : Prop} {ts rest : List Token} {kind : Token → Bool}

/-- What is read from `ts` comes to a result of a kind only under a condition, and not over a sign
that relates. -/
def KeepsAt (x : Reading α) (ts : List Token) (p : α → Prop) (P : Prop) : Prop :=
  ∀ ⦃a rest⦄, x.run ts = .ok (a, rest) → p a → P ∧ (IsUnrelated rest → IsUnrelated ts)

def Keeps (x : Reading α) (p : α → Prop) (P : Prop) : Prop :=
  ∀ ts, x.KeepsAt ts p P

theorem KeepsAt.mono (h : x.KeepsAt ts p P) (hP : P → P') : x.KeepsAt ts p P' :=
  fun _ _ hrun ha => ⟨hP (h hrun ha).1, (h hrun ha).2⟩

theorem Keeps.mono (h : x.Keeps p P) (hP : P → P') : x.Keeps p P' :=
  fun ts => (h ts).mono hP

theorem keepsAt_pure {a : α} (h : p a → P) : (pure a : Reading α).KeepsAt ts p P := by
  intro b rest hrun hb
  obtain ⟨rfl, rfl⟩ := Prod.mk.inj (Except.ok.inj hrun)
  exact ⟨h hb, id⟩

theorem keeps_pure {a : α} (h : p a → P) : (pure a : Reading α).Keeps p P :=
  fun _ => keepsAt_pure h

theorem keepsAt_fail : (fail : Reading α).KeepsAt ts p P :=
  nofun

theorem keeps_fail : (fail : Reading α).Keeps p P :=
  fun _ => keepsAt_fail

theorem keepsAt_bind (hx : x.KeepsAt ts p True) (hf : ∀ a, (f a).Keeps q (p a ∧ P)) :
    (x >>= f).KeepsAt ts q P := by
  intro b rest hrun hb
  rw [StateT.run_bind] at hrun
  obtain ⟨⟨a, mid⟩, ha, hrun⟩ := bind_eq_ok hrun
  obtain ⟨⟨hp, hP⟩, hmid⟩ := hf a mid hrun hb
  exact ⟨hP, fun hrest => (hx ha hp).2 (hmid hrest)⟩

theorem Keeps.bind (hx : x.Keeps p True) (hf : ∀ a, (f a).Keeps q (p a ∧ P)) :
    (x >>= f).Keeps q P :=
  fun ts => keepsAt_bind (hx ts) hf

/-- A part that is read after tokens that say nothing about it. -/
theorem Keeps.step (hx : x.Keeps (fun _ => True) True) (hf : ∀ a, (f a).Keeps q P) :
    (x >>= f).Keeps q P :=
  hx.bind fun a => (hf a).mono fun h => ⟨trivial, h⟩

/-- A result that is of a kind only if what is read before is. -/
theorem Keeps.result (hx : x.Keeps p P) (hf : ∀ a, (f a).Keeps q (p a)) : (x >>= f).Keeps q P := by
  intro ts b rest hrun hb
  rw [StateT.run_bind] at hrun
  obtain ⟨⟨a, mid⟩, ha, hrun⟩ := bind_eq_ok hrun
  obtain ⟨hp, hmid⟩ := hf a mid hrun hb
  obtain ⟨hP, hts⟩ := hx ts ha hp
  exact ⟨hP, fun hrest => hts (hmid hrest)⟩

/-- What never comes to a result of a kind does not do so after something else. -/
theorem keeps_bind_false (hf : ∀ a, (f a).Keeps q False) : (x >>= f).Keeps q P := by
  intro ts b rest hrun hb
  rw [StateT.run_bind] at hrun
  obtain ⟨⟨a, mid⟩, ha, hrun⟩ := bind_eq_ok hrun
  exact (hf a mid hrun hb).1.elim

theorem keeps_ite {c : Prop} [Decidable c] {y : Reading α} (hx : c → x.Keeps p P)
    (hy : ¬c → y.Keeps p P) : (if c then x else y).Keeps p P := by
  split
  · exact hx ‹_›
  · exact hy ‹_›

theorem keepsAt_ite {c : Prop} [Decidable c] {y : Reading α} (hx : c → x.KeepsAt ts p P)
    (hy : ¬c → y.KeepsAt ts p P) : (if c then x else y).KeepsAt ts p P := by
  split
  · exact hx ‹_›
  · exact hy ‹_›

theorem keeps_get {f : List Token → Reading β} (h : ∀ ts, (f ts).KeepsAt ts q P) :
    (get >>= f).Keeps q P :=
  fun ts _ _ hrun => h ts hrun

theorem keepsAt_set {y : Reading β} (h : y.Keeps q P)
    (hts : P → IsUnrelated rest → IsUnrelated ts) :
    (set rest >>= fun _ : PUnit => y).KeepsAt ts q P := by
  intro b last hrun hb
  obtain ⟨hP, hrest⟩ := h rest hrun hb
  exact ⟨hP, fun hlast => hts hP (hrest hlast)⟩

/-- Tokens that are taken by their kind are no signs that relate. -/
def IsHarmless (kind : Token → Bool) : Prop :=
  ∀ t, kind t = true → t.relates = false

theorem isHarmless_symbol {s : Symbol} (h : (Token.symbol s).relates = false) :
    IsHarmless (·.isSymbol s) := by
  intro t ht
  cases t with
  | symbol s' =>
    obtain rfl : s = s' := of_decide_eq_true ht
    exact h
  | _ => contradiction

theorem isHarmless_keyword {k : Keyword} : IsHarmless (·.isKeyword k) := by
  intro t ht
  cases t with
  | keyword k' => rfl
  | _ => contradiction

theorem isHarmless_closing {b : Bracket} : IsHarmless (·.isClosing b) := by
  intro t ht
  cases t with
  | closing b' => rfl
  | _ => contradiction

theorem keeps_next (kind : Token → Bool) : (next kind).Keeps (fun _ => True) True := by
  intro ts b rest hrun _
  obtain ⟨-, rfl⟩ := Prod.mk.inj (Except.ok.inj hrun)
  exact ⟨trivial, id⟩

theorem keeps_take (hkind : IsHarmless kind) : (take kind).Keeps (fun _ => True) True := by
  unfold take
  refine keeps_get fun ts => ?_
  cases ts with
  | nil => exact keepsAt_pure id
  | cons t ts =>
    dsimp only
    split
    · exact keepsAt_set (keeps_pure id) fun _ hts => .cons (hkind t ‹_›) hts
    · exact keepsAt_pure id

theorem keeps_require (hkind : IsHarmless kind) : (require kind).Keeps (fun _ => True) True := by
  unfold require
  refine (keeps_take hkind).step fun b => ?_
  exact keeps_ite (fun _ => keeps_pure id) fun _ => keeps_fail

/-! Parts between brackets. -/

variable {read : Reader} {part : Reading Node} {b : Bracket} {n first : Node} {found : List Node}
  {fuel level : Nat}

/-- Reads no sign that relates in what can stand for a value. Targets stand for none. -/
def KeepsParts (read : Reader) : Prop :=
  ∀ goal level, goal ≠ .target → (read goal level).Keeps Node.IsPlain True

theorem keeps_around (parts : List Node) :
    (pure (.around parts) : Reading Node).Keeps Node.IsPlain P :=
  keeps_pure fun h => absurd h (Node.not_isPlain_around _)

theorem keeps_starred (goal : Goal) : (starred read goal level).Keeps Node.IsPlain P :=
  keeps_bind_false fun _ => keeps_bind_false fun _ => keeps_around _

theorem keeps_nextBinds : nextBinds.Keeps (fun _ => True) True := by
  refine keeps_get fun ts => ?_
  split <;> exact keepsAt_pure id

theorem keeps_named (hread : KeepsParts read) : (named read level).Keeps Node.IsPlain True := by
  refine keeps_nextBinds.step fun binds => keeps_ite (fun _ => ?_) fun _ => ?_
  · exact keeps_bind_false fun _ => keeps_bind_false fun _ => keeps_around _
  · refine (hread .expression level nofun).bind fun n => (keeps_next _).step fun binds => ?_
    exact keeps_ite (fun _ => keeps_fail) fun _ => keeps_pure fun hn => ⟨hn, trivial⟩

theorem keeps_member (hread : KeepsParts read) : (member read level).Keeps Node.IsPlain True :=
  (keeps_next _).step fun _ => keeps_ite (fun _ => keeps_starred _) fun _ => keeps_named hread

theorem keeps_loops (found : List Node) :
    (loops read level fuel found).Keeps Node.IsPlain False := by
  induction fuel generalizing found with
  | zero => exact keeps_fail
  | succ fuel ih =>
    refine keeps_bind_false fun _ => keeps_bind_false fun _ => keeps_bind_false fun target => ?_
    refine keeps_bind_false fun _ => keeps_bind_false fun source => keeps_bind_false fun parts => ?_
    exact keeps_bind_false fun _ => keeps_ite (fun _ => ih _) fun _ => keeps_around _

theorem keeps_loopsUntil : (loopsUntil read fuel b level n).Keeps Node.IsPlain P := by
  refine ((keeps_loops [n]).result fun n => ?_).mono False.elim
  exact (keeps_require isHarmless_closing).step fun _ => keeps_pure id

theorem keeps_partsUntil (hpart : part.Keeps Node.IsPlain True) (found : List Node) :
    (partsUntil b part fuel found).Keeps (∀ n ∈ ·, n.IsPlain) (∀ n ∈ found, n.IsPlain) := by
  induction fuel generalizing found with
  | zero => exact keeps_fail
  | succ fuel ih =>
    refine (keeps_take isHarmless_closing).step fun closes => keeps_ite (fun _ => ?_) fun _ => ?_
    · exact keeps_pure fun h n hn => h n (List.mem_reverse.mpr hn)
    · refine hpart.bind fun n => (keeps_take (isHarmless_symbol rfl)).step fun _ => ?_
      refine keeps_ite (fun _ => ?_) fun _ => ?_
      · exact (ih (n :: found)).mono List.forall_mem_cons.mp
      · refine (keeps_require isHarmless_closing).step fun _ => keeps_pure fun h => ?_
        exact List.forall_mem_cons.mp fun n hn => h n (List.mem_reverse.mpr hn)

theorem keeps_restUntil (hpart : part.Keeps Node.IsPlain True) :
    (restUntil fuel b part first).Keeps (∀ n ∈ ·, n.IsPlain) first.IsPlain := by
  refine (keeps_take (isHarmless_symbol rfl)).step fun _ => keeps_ite (fun _ => ?_) fun _ => ?_
  · exact (keeps_partsUntil hpart [first]).mono fun h => h first List.mem_cons_self
  · refine (keeps_require isHarmless_closing).step fun _ => keeps_pure fun h => ?_
    exact h first List.mem_cons_self

theorem keeps_yielded : (yielded read fuel level).Keeps Node.IsPlain P := by
  refine keeps_bind_false fun _ => keeps_ite (fun _ => ?_) fun _ => ?_
  · exact keeps_bind_false fun _ => keeps_bind_false fun _ => keeps_around _
  · refine keeps_bind_false fun _ => keeps_ite (fun _ => keeps_around _) fun _ => ?_
    refine keeps_bind_false fun _ => keeps_bind_false fun nodes => ?_
    split <;> exact keeps_around _

theorem keeps_restOf {make : List Node → Node} (hpart : part.Keeps Node.IsPlain True)
    (hmake : ∀ nodes, (make nodes).IsPlain → ∀ n ∈ nodes, n.IsPlain) :
    (restUntil fuel b part first >>= fun nodes => pure (make nodes)).Keeps Node.IsPlain
      first.IsPlain :=
  (keeps_restUntil hpart).result fun nodes => keeps_pure (hmake nodes)

theorem keeps_round (hread : KeepsParts read) :
    (round read fuel level).Keeps Node.IsPlain True := by
  have hmember : (member read (level + 6)).Keeps Node.IsPlain True := keeps_member hread
  refine (keeps_take isHarmless_closing).step fun _ => ?_
  refine keeps_ite (fun _ => keeps_pure fun _ => trivial) fun _ => ?_
  refine (keeps_take isHarmless_keyword).step fun _ => ?_
  refine keeps_ite (fun _ => keeps_yielded) fun _ => ?_
  refine (keeps_next _).step fun isStarred => hmember.bind fun first => ?_
  refine (keeps_next _).step fun _ => keeps_ite (fun _ => ?_) fun _ => ?_
  · exact (keeps_restOf hmember fun _ => Node.mem_of_tuple).mono fun h => ⟨h, trivial⟩
  refine keeps_ite (fun _ => keeps_fail) fun _ => ?_
  refine (keeps_next _).step fun _ => keeps_ite (fun _ => keeps_loopsUntil) fun _ => ?_
  exact (keeps_require isHarmless_closing).step fun _ => keeps_pure fun h => ⟨h, trivial⟩

theorem keeps_square (hread : KeepsParts read) :
    (square read fuel level).Keeps Node.IsPlain True := by
  have hmember : (member read (level + 7)).Keeps Node.IsPlain True := keeps_member hread
  refine (keeps_take isHarmless_closing).step fun _ => ?_
  refine keeps_ite (fun _ => keeps_pure fun _ => trivial) fun _ => ?_
  refine (keeps_next _).step fun isStarred => hmember.bind fun first => ?_
  refine (keeps_next _).step fun _ => keeps_ite (fun _ => keeps_loopsUntil) fun _ => ?_
  exact (keeps_restOf hmember fun _ => Node.mem_of_list).mono fun h => ⟨h, trivial⟩

def IsPlainPair (p : Node × Node) : Prop :=
  p.1.IsPlain ∧ p.2.IsPlain

theorem keeps_pair (hread : KeepsParts read) : (pair read level).Keeps IsPlainPair True := by
  refine (keeps_take (isHarmless_symbol rfl)).step fun _ => keeps_ite (fun _ => ?_) fun _ => ?_
  · exact keeps_bind_false fun _ => keeps_pure fun h => Node.not_isPlain_other _ h.1
  · refine (hread .expression (level + 7) nofun).bind fun key => ?_
    refine (keeps_require (isHarmless_symbol rfl)).step fun _ => ?_
    refine (hread .expression (level + 7) nofun).bind fun value => keeps_pure fun h => ?_
    exact ⟨h.2, h.1, trivial⟩

theorem isPlainPair_of_dict {pairs : List (Node × Node)} (h : (Node.dict pairs).IsPlain) :
    ∀ p ∈ pairs, IsPlainPair p := by
  cases h with
  | dict hkey hvalue => exact fun p hp => ⟨hkey p hp, hvalue p hp⟩

theorem keeps_pairs (hread : KeepsParts read) (found : List (Node × Node)) :
    (pairs read level fuel found).Keeps Node.IsPlain (∀ p ∈ found, IsPlainPair p) := by
  induction fuel generalizing found with
  | zero => exact keeps_fail
  | succ fuel ih =>
    refine (keeps_take isHarmless_closing).step fun _ => keeps_ite (fun _ => ?_) fun _ => ?_
    · exact keeps_pure fun h p hp => isPlainPair_of_dict h p (List.mem_reverse.mpr hp)
    · refine (keeps_pair hread).bind fun p => (keeps_take (isHarmless_symbol rfl)).step fun _ => ?_
      refine keeps_ite (fun _ => ?_) fun _ => ?_
      · exact (ih (p :: found)).mono List.forall_mem_cons.mp
      · refine (keeps_require isHarmless_closing).step fun _ => keeps_pure fun h => ?_
        exact List.forall_mem_cons.mp fun p hp => isPlainPair_of_dict h p (List.mem_reverse.mpr hp)

theorem keeps_curly (hread : KeepsParts read) :
    (curly read fuel level).Keeps Node.IsPlain True := by
  have hmember : (member read (level + 7)).Keeps Node.IsPlain True := keeps_member hread
  refine (keeps_next _).step fun isStarred => keeps_nextBinds.step fun binds => ?_
  refine (keeps_next _).step fun _ => ?_
  refine keeps_ite (fun _ => (keeps_pairs hread []).mono fun _ => trivial) fun _ => ?_
  refine hmember.bind fun first => (keeps_take (isHarmless_symbol rfl)).step fun _ => ?_
  refine keeps_ite (fun _ => ?_) fun _ => ?_
  · refine (hread .expression (level + 7) nofun).bind fun second => (keeps_next _).step fun _ => ?_
    refine keeps_ite (fun _ => keeps_loopsUntil) fun _ => ?_
    refine (keeps_take (isHarmless_symbol rfl)).step fun _ => keeps_ite (fun _ => ?_) fun _ => ?_
    · refine (keeps_pairs hread _).mono fun h => ?_
      have hpair := h (first, second) List.mem_cons_self
      exact ⟨hpair.2, hpair.1, trivial⟩
    · refine (keeps_require isHarmless_closing).step fun _ => keeps_pure fun h => ?_
      have hpair := isPlainPair_of_dict h (first, second) List.mem_cons_self
      exact ⟨hpair.2, hpair.1, trivial⟩
  · refine (keeps_next _).step fun _ => keeps_ite (fun _ => keeps_loopsUntil) fun _ => ?_
    exact (keeps_restOf hmember fun _ => Node.mem_of_set).mono fun h => ⟨h, trivial⟩

theorem keeps_subscript : (subscript read fuel level n).Keeps Node.IsPlain P := by
  refine keeps_bind_false fun _ => keeps_bind_false fun parts => ?_
  split <;> exact keeps_around _

theorem keeps_arguments (allowed : Arguments) (found : List Node) :
    (arguments read level fuel allowed found).Keeps (· = []) (found = []) := by
  induction fuel generalizing allowed found with
  | zero => exact keeps_fail
  | succ fuel ih =>
    refine (keeps_take isHarmless_closing).step fun _ => ?_
    refine keeps_ite (fun _ => keeps_pure id) fun _ => ?_
    refine keeps_bind_false fun _ => keeps_bind_false fun r => keeps_bind_false fun isLoop => ?_
    refine keeps_ite (fun _ => keeps_bind_false fun _ => keeps_pure nofun) fun _ => ?_
    refine keeps_bind_false fun _ => keeps_ite (fun _ => (ih _ _).mono nofun) fun _ => ?_
    exact keeps_bind_false fun _ => keeps_pure nofun

/-- A call stands for a value only as an empty set. -/
theorem keeps_call : (call read fuel level n).Keeps Node.IsPlain n.IsPlain := by
  refine ((keeps_arguments .any []).mono fun _ => trivial).bind fun parts => ?_
  split
  · exact keeps_pure fun _ => ⟨rfl, .name _⟩
  · exact keeps_around _

/-! Expressions, from the innermost to the outermost. -/

theorem keeps_quotedRun (found : Node) :
    (quotedRun read found : Reading Node).Keeps (fun _ => True) True := by
  intro ts
  induction ts generalizing found with
  | nil =>
    intro n rest hrun _
    obtain ⟨rfl, rfl⟩ := Prod.mk.inj (Except.ok.inj hrun)
    exact ⟨trivial, id⟩
  | cons t ts ih =>
    intro n rest hrun _
    cases t with
    | quoted q =>
      unfold StateT.run quotedRun at hrun
      split at hrun
      · contradiction
      · split at hrun
        · obtain ⟨-, hts⟩ := ih _ hrun trivial
          exact ⟨trivial, fun hrest => .cons rfl (hts hrest)⟩
        · contradiction
    | _ =>
      obtain ⟨rfl, rfl⟩ := Prod.mk.inj (Except.ok.inj hrun)
      exact ⟨trivial, id⟩

theorem keeps_throw {e : Fault} : (throw e >>= f : Reading β).Keeps q P :=
  fun _ => nofun

theorem keeps_lift (r : Except Fault α) : (liftM r : Reading α).Keeps (fun _ => True) True := by
  intro ts a rest hrun _
  cases r with
  | error e => contradiction
  | ok b =>
    obtain ⟨-, rfl⟩ := Prod.mk.inj (Except.ok.inj hrun)
    exact ⟨trivial, id⟩

theorem keeps_atom (hread : KeepsParts read) : (atom read fuel level).Keeps Node.IsPlain True := by
  unfold atom
  dsimp only
  refine keeps_ite (fun _ => keeps_throw) fun _ => keeps_get fun ts => ?_
  cases ts with
  | nil => exact keepsAt_fail
  | cons t rest =>
    dsimp only
    split
    · exact keepsAt_set (keeps_pure fun _ => trivial) fun _ hrest => .cons rfl hrest
    · refine keepsAt_set ?_ fun _ hrest => .cons rfl hrest
      refine keeps_ite (fun _ => keeps_throw) fun _ => ?_
      exact (keeps_lift _).step fun n ts _ _ hrun _ => keeps_quotedRun n ts hrun trivial
    · exact keepsAt_set (keeps_pure fun _ => trivial) fun _ hrest => .cons rfl hrest
    · exact keepsAt_set (keeps_pure fun _ => trivial) fun _ hrest => .cons rfl hrest
    · exact keepsAt_set (keeps_pure fun _ => trivial) fun _ hrest => .cons rfl hrest
    · exact keepsAt_set (keeps_pure fun _ => trivial) fun _ hrest => .cons rfl hrest
    · exact keepsAt_set (keeps_pure fun _ => trivial) fun _ hrest => .cons rfl hrest
    · exact keepsAt_set (keeps_round hread) fun _ hrest => .cons rfl hrest
    · exact keepsAt_set (keeps_square hread) fun _ hrest => .cons rfl hrest
    · exact keepsAt_set (keeps_curly hread) fun _ hrest => .cons rfl hrest
    · exact keeps_bind_false (fun _ => keeps_fail) _

theorem keeps_trailers (n : Node) (last : Option Trailer) :
    (trailers read level fuel n last).Keeps (·.1.IsPlain) n.IsPlain := by
  induction fuel generalizing n last with
  | zero => exact keeps_fail
  | succ fuel ih =>
    refine keeps_get fun ts => ?_
    split
    · refine keepsAt_set ((ih _ _).mono fun h => absurd h (Node.not_isPlain_around _)) ?_
      exact fun _ hrest => .cons rfl (.cons rfl hrest)
    · exact keepsAt_set (keeps_subscript.result fun n => ih n _) fun _ hrest => .cons rfl hrest
    · exact keepsAt_set (keeps_call.result fun n => ih n _) fun _ hrest => .cons rfl hrest
    · exact keepsAt_pure id

theorem keeps_primary (hread : KeepsParts read) :
    (primary read fuel level).Keeps (·.1.IsPlain) True :=
  (keeps_atom hread).result fun n => keeps_trailers n none

theorem keeps_factor (hread : KeepsParts read) :
    (factor read fuel level).Keeps Node.IsPlain True := by
  have hfactor (level : Nat) : (read .factor level).Keeps Node.IsPlain True :=
    hread .factor level nofun
  refine keeps_get fun ts => ?_
  split
  · refine keepsAt_set ((hfactor (level + 1)).result fun n => ?_) fun _ hrest => .cons rfl hrest
    exact keeps_pure Node.isPlain_of_withSign
  · refine keepsAt_set ((hfactor (level + 1)).result fun n => ?_) fun _ hrest => .cons rfl hrest
    exact keeps_pure Node.isPlain_of_withSign
  · exact keepsAt_set (keeps_bind_false fun _ => keeps_around _) fun _ hrest => .cons rfl hrest
  · refine (keeps_take isHarmless_keyword).step (fun isAwaited => ?_) _
    refine (keeps_primary hread).result fun r => ?_
    refine (keeps_take (isHarmless_symbol rfl)).step fun _ => keeps_ite (fun _ => ?_) fun _ => ?_
    · exact keeps_bind_false fun _ => keeps_around _
    · refine keeps_pure fun h => ?_
      split at h
      · exact absurd h (Node.not_isPlain_around _)
      · exact h

theorem keeps_rightSides {rank : Nat} (hpart : part.Keeps Node.IsPlain True) (left : Node) :
    (rightSides rank part fuel left).Keeps Node.IsPlain left.IsPlain := by
  induction fuel generalizing left with
  | zero => exact keeps_fail
  | succ fuel ih =>
    refine keeps_get fun ts => ?_
    split
    · refine keepsAt_ite (fun _ => ?_) fun _ => keepsAt_pure id
      refine (keepsAt_set (hpart.bind fun right => ?_) fun h hrest => .cons h.2 hrest).mono And.left
      refine (ih _).mono fun h => ?_
      obtain ⟨⟨hleft, hright⟩, hs⟩ := isPlain_of_combine h
      exact ⟨hright, hleft, hs⟩
    · exact keepsAt_pure id

theorem keeps_arithmetic (hread : KeepsParts read) (rank : Nat) :
    (arithmetic read fuel level rank).Keeps Node.IsPlain True := by
  induction rank with
  | zero => exact keeps_factor hread
  | succ rank ih => exact ih.result fun left => keeps_rightSides ih left

/-- Operators that compare are signs that relate, or words. -/
theorem keeps_takeComparison : takeComparison.Keeps (· = false) True := by
  refine keeps_get fun ts => ?_
  split
  case h_5 =>
    refine keepsAt_ite (fun _ => ?_) fun _ => keepsAt_pure fun _ => trivial
    exact keeps_bind_false (fun _ => keeps_pure nofun) _
  case h_6 => exact keepsAt_pure fun _ => trivial
  all_goals exact keeps_bind_false (fun _ => keeps_pure nofun) _

theorem keeps_comparison (hread : KeepsParts read) (fuel' : Nat) (found : List Node) :
    (comparison read fuel level fuel' found).Keeps Node.IsPlain (found = []) := by
  induction fuel' generalizing found with
  | zero => exact keeps_fail
  | succ fuel' ih =>
    refine (keeps_arithmetic hread 6).bind fun n => keeps_takeComparison.bind fun compares => ?_
    refine keeps_ite (fun _ => (ih (n :: found)).mono nofun) fun hcompares => keeps_pure fun h => ?_
    split at h
    · exact ⟨Bool.not_eq_true _ ▸ hcompares, h, List.isEmpty_iff.mp ‹_›⟩
    · exact absurd h (Node.not_isPlain_around _)

theorem keeps_inversion (hread : KeepsParts read) :
    (inversion read fuel level).Keeps Node.IsPlain True := by
  refine (keeps_take isHarmless_keyword).step fun _ => keeps_ite (fun _ => ?_) fun _ => ?_
  · exact keeps_bind_false fun _ => keeps_around _
  · exact (keeps_comparison hread fuel []).mono fun _ => trivial

theorem keeps_chain {k : Keyword} (hpart : part.Keeps Node.IsPlain True) (found : List Node) :
    (chain k part fuel found).Keeps Node.IsPlain (found = []) := by
  induction fuel generalizing found with
  | zero => exact keeps_fail
  | succ fuel ih =>
    refine hpart.bind fun n => (keeps_take isHarmless_keyword).step fun _ => ?_
    refine keeps_ite (fun _ => (ih (n :: found)).mono nofun) fun _ => keeps_pure fun h => ?_
    split at h
    · exact ⟨h, List.isEmpty_iff.mp ‹_›⟩
    · exact absurd h (Node.not_isPlain_around _)

theorem keeps_disjunction (hread : KeepsParts read) :
    (disjunction read fuel level).Keeps Node.IsPlain True := by
  have hconjunction : (chain .and (inversion read fuel (level + 2)) fuel []).Keeps Node.IsPlain True :=
    (keeps_chain (keeps_inversion hread) []).mono fun _ => trivial
  exact (keeps_chain hconjunction []).mono fun _ => trivial

theorem keeps_expression (hread : KeepsParts read) :
    (expression read fuel level).Keeps Node.IsPlain True := by
  refine (keeps_take isHarmless_keyword).step fun _ => keeps_ite (fun _ => ?_) fun _ => ?_
  · exact keeps_bind_false fun _ => keeps_bind_false fun _ => keeps_around _
  · refine (keeps_disjunction hread).bind fun n => (keeps_take isHarmless_keyword).step fun _ => ?_
    refine keeps_ite (fun _ => ?_) fun _ => keeps_pure fun h => ⟨h, trivial⟩
    refine keeps_bind_false fun _ => keeps_bind_false fun _ => keeps_bind_false fun _ => ?_
    exact keeps_around _

theorem keepsParts_readPart (fuel : Nat) : KeepsParts (readPart fuel) := by
  induction fuel with
  | zero => exact fun _ _ _ => keeps_fail
  | succ fuel ih =>
    intro goal level hgoal
    cases goal with
    | expression => exact keeps_expression ih
    | disjunction => exact keeps_disjunction ih
    | inversion => exact keeps_inversion ih
    | operand => exact keeps_arithmetic ih 6
    | factor => exact keeps_factor ih
    | target => contradiction

theorem keeps_readLine (hpart : part.Keeps Node.IsPlain True) (found : List Node) :
    (readLine part fuel found).Keeps Node.IsPlain (∀ n ∈ found, n.IsPlain) := by
  induction fuel generalizing found with
  | zero => exact keeps_fail
  | succ fuel ih =>
    unfold readLine
    refine keeps_get fun ts => keepsAt_ite (fun _ => keepsAt_pure fun h n hn => ?_) fun _ => ?_
    · exact Node.mem_of_tuple h n (List.mem_reverse.mpr hn)
    refine (hpart.bind fun n => (keeps_take (isHarmless_symbol rfl)).step fun _ => ?_) ts
    refine keeps_ite (fun _ => (ih (n :: found)).mono List.forall_mem_cons.mp) fun _ => ?_
    refine keeps_pure fun h => ?_
    split at h
    · have hfound : found = [] := List.isEmpty_iff.mp ‹_›
      subst hfound
      exact ⟨h, nofun⟩
    · exact List.forall_mem_cons.mp fun n hn => Node.mem_of_tuple h n (List.mem_reverse.mpr hn)

end Reading

/-- An expression that stands for a value has no sign that relates. -/
theorem isUnrelated_tokens {t : Text} {v : Value} (h : (node t).bind Node.value = .ok v) :
    IsUnrelated (tokens t) := by
  obtain ⟨n, hn, hv⟩ := bind_eq_ok h
  unfold node at hn
  dsimp only at hn
  split at hn
  · contradiction
  split at hn
  · contradiction
  split at hn
  · contradiction
  rename_i m rest hrun hrest _
  obtain rfl : m = n := Except.ok.inj hn
  have hexpression := Reading.keepsParts_readPart (t.length + 2) .expression 3 nofun
  obtain ⟨-, hts⟩ := Reading.keeps_readLine hexpression [] _ hrun (Node.isPlain_of_value m hv)
  exact hts (isUnrelated_of_newlines (by simpa using hrest))

end Collation.Literal
