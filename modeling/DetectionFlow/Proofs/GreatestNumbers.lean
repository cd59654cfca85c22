import DetectionFlow.Graph
import DetectionFlow.Proofs.KeyedLists
import DetectionFlow.Proofs.NotedTheorems
import DetectionFlow.Proofs.RoundingTheorems

/-!
# The greatest of some numbers

Integers and doubles are compared exactly. Every number that is one has a rank, its count of the units of
doubles with the infinities outside of all counts (`Number.rank?`), and numbers are in the order of their
ranks (`Number.lt_iff`). So a run through a list that goes over to each greater number ends at one that no
other exceeds (`Number.foldl_greater`), whatever is no number in between.
-/

namespace DetectionFlow

namespace Number

/-! ## Ranks -/

/-- The rank of a count of units. -/
def finiteRank (units : Int) : WithBot (WithTop Int) := WithBot.some (WithTop.some units)

@[simp] lemma finiteRank_lt {m n : Int} : finiteRank m < finiteRank n ↔ m < n := by
  simp [finiteRank]

@[simp] lemma finiteRank_inj {m n : Int} : finiteRank m = finiteRank n ↔ m = n := by
  simp [finiteRank]

@[simp] lemma finiteRank_lt_top (m : Int) : finiteRank m < ⊤ := by
  exact WithBot.coe_lt_coe.mpr (WithTop.coe_lt_top m)

@[simp] lemma bot_lt_finiteRank (m : Int) : ⊥ < finiteRank m := WithBot.bot_lt_coe _

/-- The place of a number among all integers and doubles. What is no number has none. -/
def rank? : Number → Option (WithBot (WithTop Int))
  | int n => some (finiteRank (n * Double.unit))
  | float .nan => none
  | float (.infinity negative) => some (if negative then ⊥ else ⊤)
  | float (.finite negative units _) => some (finiteRank (Double.signed negative units))

lemma signed_lt_limit {negative : Bool} {units : Nat} (h : Representable units) :
    Double.signed negative units < limitUnits ∧ -(limitUnits : Int) < Double.signed negative units := by
  have hunits : units < limitUnits := h.1
  cases negative <;> simp only [Double.signed] <;> constructor <;> simp <;> omega

lemma place?_infinity (negative : Bool) : (Double.infinity negative).place? =
    some (if negative then -(limitUnits : Int) else limitUnits) := by
  cases negative <;> rfl

lemma place?_finite {negative : Bool} {units : Nat} (h : Representable units) :
    (Double.finite negative units h).place? = some (Double.signed negative units) := rfl

/-- Numbers are in the order of their ranks. -/
lemma lt_iff {a b : Number} : a.lt b = true ↔ ∃ p ∈ a.rank?, ∃ q ∈ b.rank?, p < q := by
  have hunit : (0 : Int) < Double.unit := by exact_mod_cast Double.unit_pos
  cases a with
  | int m =>
    cases b with
    | int n => simp [lt, compare?, rank?, compare_lt_iff_lt, Int.mul_lt_mul_right hunit]
    | float y =>
      cases y with
      | nan => simp [lt, compare?, compareInt?, rank?]
      | infinity negative => cases negative <;> simp [lt, compare?, compareInt?, rank?]
      | finite negative units h =>
        simp [lt, compare?, compareInt?, rank?, Ordering.swap_eq_lt, compare_gt_iff_gt]
  | float x =>
    cases b with
    | int n =>
      cases x with
      | nan => simp [lt, compare?, compareInt?, rank?]
      | infinity negative => cases negative <;> simp [lt, compare?, compareInt?, rank?]
      | finite negative units h => simp [lt, compare?, compareInt?, rank?, compare_lt_iff_lt]
    | float y =>
      -- Doubles are compared by places, where the infinities stand just outside of all finite ones.
      have hlimit : (0 : Int) < limitUnits := by
        rw [limitUnits_eq]
        positivity
      cases x with
      | nan => simp [lt, compare?, rank?, Double.place?]
      | infinity negative =>
        cases y with
        | nan => simp [lt, compare?, rank?, Double.place?]
        | infinity negative' =>
          cases negative <;> cases negative' <;>
            simp [lt, compare?, rank?, place?_infinity, compare_lt_iff_lt]
          omega
        | finite negative' units h =>
          have hbounds := @signed_lt_limit negative' units h
          cases negative <;>
            simp [lt, compare?, rank?, place?_infinity, place?_finite, compare_lt_iff_lt]
          all_goals omega
      | finite negative units h =>
        have hbounds := @signed_lt_limit negative units h
        cases y with
        | nan => simp [lt, compare?, rank?, Double.place?]
        | infinity negative' =>
          cases negative' <;>
            simp [lt, compare?, rank?, place?_infinity, place?_finite, compare_lt_iff_lt]
          all_goals omega
        | finite negative' units' h' => simp [lt, compare?, rank?, place?_finite, compare_lt_iff_lt]

/-- A number is the same as a finite one if it has the same rank. -/
lemma same_iff {a b : Number} {p : Int} (hb : b.rank? = some (finiteRank p)) :
    a.same b = true ↔ a.rank? = some (finiteRank p) := by
  have hunit : Double.unit ≠ 0 := Double.unit_pos.ne'
  have hbot := (bot_lt_finiteRank p).ne
  have htop := (finiteRank_lt_top p).ne'
  cases b with
  | int n =>
    obtain rfl := finiteRank_inj.mp (Option.some.inj hb)
    rcases a with m | (_ | negative | ⟨negative, units, h⟩)
    · simp [same, compare?, rank?, hunit]
    · simp [same, compare?, compareInt?, rank?]
    · cases negative <;> simp [same, compare?, compareInt?, rank?, hbot, htop]
    · simp [same, compare?, compareInt?, rank?]
  | float y =>
    rcases y with _ | negative' | ⟨negative', units', h'⟩
    · cases hb
    · cases negative'
      · exact absurd (Option.some.inj hb) htop
      · exact absurd (Option.some.inj hb) hbot
    · obtain rfl := finiteRank_inj.mp (Option.some.inj hb)
      rcases a with m | (_ | negative | ⟨negative, units, h⟩)
      · simp [same, compare?, compareInt?, rank?]
        exact eq_comm
      · simp [same, compare?, Double.place?, rank?]
      · have hlimit := @signed_lt_limit negative' units' h'
        -- Among doubles an infinity is placed at the limit, which no finite double reaches.
        have hne : Double.signed negative limitUnits ≠ Double.signed negative' units' := by
          cases negative <;> simp only [Double.signed, if_true, if_false, Bool.false_eq_true] at hlimit ⊢ <;> omega
        cases negative <;> simp [same, compare?, Double.place?, rank?, hbot, htop, hne]
      · simp [same, compare?, Double.place?, rank?]

lemma not_lt_self (a : Number) : a.lt a = false := by
  rw [← Bool.not_eq_true, lt_iff]
  rintro ⟨p, hp, q, hq, h⟩
  obtain rfl := Option.mem_unique hp hq
  exact h.false

lemma lt_of_lt_of_lt {a b c : Number} (hab : a.lt b = true) (hbc : b.lt c = true) :
    a.lt c = true := by
  obtain ⟨p, hp, q, hq, hpq⟩ := lt_iff.mp hab
  obtain ⟨q', hq', r, hr, hqr⟩ := lt_iff.mp hbc
  obtain rfl := Option.mem_unique hq hq'
  exact lt_iff.mpr ⟨p, hp, r, hr, hpq.trans hqr⟩

lemma not_lt_of_lt {a b : Number} (h : a.lt b = true) : b.lt a = false := by
  rw [← Bool.not_eq_true]
  intro hba
  exact Bool.false_ne_true ((not_lt_self a).symm.trans (lt_of_lt_of_lt h hba))

lemma toValue_inj {a b : Number} (h : a.toValue = b.toValue) : a = b := by
  cases a <;> cases b <;> simp_all [toValue]

/-! ## A run through a list -/

/-- The greater of two numbers, and the first one if neither is. -/
def greater (best x : Number) : Number := if best.lt x then x else best

/-- A run that goes over to each greater number ends at one that no other exceeds. It is the first one or
greater than that. -/
lemma foldl_greater (xs : List Number) (best : Number) :
    xs.foldl greater best ∈ best :: xs ∧
      (xs.foldl greater best = best ∨ best.lt (xs.foldl greater best) = true) ∧
      ∀ x ∈ xs, (xs.foldl greater best).lt x = false := by
  induction xs generalizing best with
  | nil => simp
  | cons y rest ih =>
    -- The last number is `greater best y` or exceeds it, so it is not exceeded by `y` either.
    obtain ⟨hmem, hfirst, hrest⟩ := ih (greater best y)
    rw [List.foldl_cons, List.forall_mem_cons]
    generalize rest.foldl greater (greater best y) = last at *
    by_cases hless : best.lt y = true
    · rw [greater, if_pos hless] at hmem hfirst
      refine ⟨List.mem_cons_of_mem _ hmem, ?_, ?_, hrest⟩
      · rcases hfirst with rfl | hfirst
        · exact .inr hless
        · exact .inr (lt_of_lt_of_lt hless hfirst)
      · rcases hfirst with rfl | hfirst
        · exact not_lt_self _
        · exact not_lt_of_lt hfirst
    · rw [greater, if_neg hless] at hmem hfirst
      refine ⟨?_, hfirst, ?_, hrest⟩
      · rcases List.mem_cons.mp hmem with rfl | hmem
        · exact List.mem_cons_self
        · exact List.mem_cons_of_mem _ (List.mem_cons_of_mem _ hmem)
      · rcases hfirst with rfl | hfirst
        · simpa using hless
        · rw [← Bool.not_eq_true]
          exact fun hlast => hless (lt_of_lt_of_lt hfirst hlast)

end Number

/-! ## The right border of a graph -/

namespace Graph

variable {g : Graph}

/-- The node stands at a pair of numbers. -/
def IsDrawnAt (n : Node) (x y : Number) : Prop := n.position = [x.toValue, y.toValue]

/-- The horizontal position of a node that no other node exceeds. -/
structure IsRightmost (g : Graph) (x : Number) : Prop where
  reached : ∃ n ∈ g.nodes, ∃ y, IsDrawnAt n x y
  greatest : ∀ n ∈ g.nodes, ∀ x' y', IsDrawnAt n x' y' → x.lt x' = false

lemma exceeds_toValue (x y : Number) : exceeds x.toValue y.toValue = .ok (y.lt x) := by
  cases x <;> cases y <;> rfl

lemma foldlM_exceeds (xs : List Number) (best : Number) :
    (xs.map Number.toValue).foldlM (fun best y => do
        if ← exceeds y best then return y else return best : Value → Value → Except Fault Value)
      best.toValue = .ok (xs.foldl Number.greater best).toValue := by
  induction xs generalizing best with
  | nil => rfl
  | cons y rest ih =>
    rw [List.map_cons, List.foldlM_cons, exceeds_toValue, List.foldl_cons, ← ih, Number.greater]
    by_cases hless : best.lt y = true
    · rw [hless]
      rfl
    · rw [Bool.not_eq_true] at hless
      rw [hless]
      rfl

/-- The right border of a graph of nodes that all stand at pairs of numbers. -/
lemma rightmost?_eq (hdrawn : ∀ n ∈ g.nodes, ∃ x y, IsDrawnAt n x y) :
    (g.nodes = [] ∧ g.rightmost? = .ok none) ∨
      ∃ x, g.IsRightmost x ∧ g.rightmost? = .ok (some x.toValue) := by
  obtain ⟨xs, hxs⟩ := exists_forall₂ hdrawn
  have hvalues : g.nodes.mapM horizontal = .ok (xs.map Number.toValue) := by
    rw [Except.mapM_eq_ok, List.forall₂_map_right_iff]
    refine hxs.imp fun n x ⟨y, hposition⟩ => ?_
    rw [horizontal, hposition]
  rw [rightmost?, hvalues]
  cases xs with
  | nil => exact .inl ⟨List.forall₂_nil_right_iff.mp hxs, rfl⟩
  | cons first rest =>
    obtain ⟨hmem, hfirst, hrest⟩ := Number.foldl_greater rest first
    refine .inr ⟨rest.foldl Number.greater first, ⟨?_, ?_⟩, ?_⟩
    · obtain ⟨n, hn, hdrawnAt⟩ := exists_of_forall₂ hxs.flip hmem
      exact ⟨n, hn, hdrawnAt⟩
    · intro n hn x' y' hposition
      obtain ⟨x, hx, y, hposition'⟩ := exists_of_forall₂ hxs hn
      obtain rfl : x = x' := Number.toValue_inj (List.cons.inj (hposition'.symm.trans hposition)).1
      rcases List.mem_cons.mp hx with rfl | hx
      · rcases hfirst with heq | hfirst
        · rw [heq]
          exact Number.not_lt_self _
        · exact Number.not_lt_of_lt hfirst
      · exact hrest x hx
    · rw [List.map_cons]
      show (do
        let greatest ← (rest.map Number.toValue).foldlM (fun best y => do
          if ← exceeds y best then return y else return best) first.toValue
        return some greatest : Except Fault (Option Value)) = _
      rw [foldlM_exceeds]
      rfl

end Graph
end DetectionFlow
