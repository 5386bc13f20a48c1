import Mathlib.Tactic
import RuleFixtures.PromQL.Walk

/-!
The order in which an expression and its parts are visited.

What is still to be visited waits on a stack. The visit is compared with the recursive definition
of the preorder, in which the single parts come before the arguments of a call.

* `Visit.next?` is one round of the loop, `Visit.after` several of them. `Visit.after_stack`: a
  stack is worked off in as many rounds as there are expressions in it.
* `Expr.IsPreorder` is the recursive definition by the places of the parts, `Expr.nodes_eq` says
  that there is no other order in which expressions are visited.
* `Expr.Enumerates` lists the positions in an expression in lexicographic order, with what stands at
  them. `Expr.exists_enumerates`: every expression has such a list along its preorder.
* `Expr.visits_all`: the loop ends, visits in preorder, and comes to each position once and after
  those above it.
-/

namespace RuleFixtures.PromQL

/-! ### The loop -/

/-- The state of a visit. -/
structure Visit where
  visited : List Expr
  /-- What is still to be visited, the next expression being the last. -/
  stack : List Expr

namespace Visit

/-- Before the first round. -/
def start (root : Expr) : Visit := ⟨[], [root]⟩

/-- Takes the last expression off the stack, visits it, and puts its parts on the stack from the
last to the first; there is nothing to do when the stack is empty. -/
def next? (visit : Visit) : Option Visit :=
  visit.stack.getLast?.map fun e =>
    ⟨visit.visited ++ [e], visit.stack.dropLast ++ e.children.reverse⟩

/-- The state after a number of rounds, if there are as many. -/
def after : ℕ → Visit → Option Visit
  | 0, visit => some visit
  | n + 1, visit => visit.next?.bind (after n)

lemma next?_append (visited stack : List Expr) (e : Expr) :
    next? ⟨visited, stack ++ [e]⟩ = some ⟨visited ++ [e], stack ++ e.children.reverse⟩ := by
  simp [next?]

lemma after_add (m n : ℕ) (visit : Visit) :
    after (m + n) visit = (after m visit).bind (after n) := by
  induction m generalizing visit with
  | zero => rw [Nat.zero_add, after, Option.bind_some]
  | succ m ih =>
    rw [Nat.add_right_comm, after, after, Option.bind_assoc]
    exact congrArg _ (funext ih)

/-- A stack is worked off in as many rounds as there are expressions in it. -/
theorem after_stack (visited stack : List Expr) :
    after (Expr.sizeAll stack) ⟨visited, stack.reverse⟩ =
      some ⟨visited ++ Expr.walk stack, []⟩ := by
  fun_induction Expr.walk stack generalizing visited with
  | case1 => simp [Expr.sizeAll, after]
  | case2 e rest ih =>
    have hsize : Expr.sizeAll (e :: rest) = Expr.sizeAll (e.children ++ rest) + 1 := by
      rw [Expr.sizeAll, Expr.size_eq, Expr.sizeAll_append]
      omega
    rw [hsize, after, List.reverse_cons, next?_append, Option.bind_some, ← List.reverse_append, ih,
      List.append_assoc, List.singleton_append]

/-- An expression is visited in as many rounds as it has parts, itself included, and there is no
further round. -/
lemma after_start (root : Expr) : after root.size (start root) = some ⟨root.nodes, []⟩ := by
  have hstack := after_stack [] [root]
  rwa [Expr.sizeAll, Expr.sizeAll, Nat.add_zero, List.nil_append] at hstack

lemma after_start_eq_none_iff (root : Expr) (n : ℕ) :
    after n (start root) = none ↔ root.size < n := by
  constructor
  · intro hnone
    by_contra hle
    have hall := after_start root
    rw [← Nat.add_sub_cancel' (Nat.le_of_not_lt hle), after_add, hnone] at hall
    cases hall
  · intro hlt
    obtain ⟨k, rfl⟩ := Nat.exists_eq_add_of_lt hlt
    rw [Nat.add_assoc, after_add, after_start]
    rfl

end Visit

namespace Expr

lemma length_walk (stack : List Expr) : (walk stack).length = sizeAll stack := by
  fun_induction walk stack with
  | case1 => rfl
  | case2 e rest ih =>
    rw [List.length_cons, ih, sizeAll, size_eq, sizeAll_append]
    omega

lemma length_nodes (root : Expr) : root.nodes.length = root.size := by
  rw [nodes, length_walk, sizeAll, sizeAll, Nat.add_zero]

/-! ### The recursive definition -/

/-- A place at which an expression has one part at most. -/
inductive Place where
  | operand
  | left
  | right
  | parameter
  | selector

/-- The places in the order in which they are visited. -/
def Place.all : List Place := [.operand, .left, .right, .parameter, .selector]

/-- The part at a place. -/
def part? : Expr → Place → Option Expr
  | .subquery body _ _ _ _, .operand => some body
  | .aggregate _ _ body, .operand => some body
  | .aggregateWith _ _ body _, .operand => some body
  | .negation body, .operand => some body
  | .paren body, .operand => some body
  | .binary _ _ _ left _, .left => some left
  | .binary _ _ _ _ right, .right => some right
  | .aggregateWith _ _ _ parameter, .parameter => some parameter
  | .range s _, .selector => some (.selector s)
  | _, _ => none

/-- The arguments of a call. -/
def arguments : Expr → List Expr
  | .call _ arguments => arguments
  | _ => []

/-- The parts are those at the places and then the arguments. -/
lemma children_eq (e : Expr) : e.children = Place.all.filterMap e.part? ++ e.arguments := by
  cases e <;> rfl

/-- An expression comes before its parts, place by place, and these before its arguments, from left
to right. -/
def IsPreorder (order : Expr → List Expr) : Prop :=
  ∀ e, order e = e :: (Place.all.filterMap e.part?).flatMap order ++ e.arguments.flatMap order

lemma preorderAll_eq (es : List Expr) : preorderAll es = es.flatMap preorder := by
  induction es with
  | nil => rfl
  | cons e rest ih => rw [preorderAll, ih, List.flatMap_cons]

lemma isPreorder_preorder : IsPreorder preorder := fun e => by
  rw [preorder_eq, preorderAll_eq, children_eq, List.flatMap_append, List.cons_append]

/-! ### Induction on the parts -/

lemma size_le_of_mem {e : Expr} {es : List Expr} (h : e ∈ es) : e.size ≤ sizeAll es := by
  induction es with
  | nil => cases h
  | cons other rest ih =>
    rw [sizeAll]
    rcases List.mem_cons.1 h with rfl | h
    · omega
    · have := ih h
      omega

/-- What holds of an expression if it holds of its parts holds of every expression. -/
theorem parts_induction {P : Expr → Prop} (h : ∀ e, (∀ part ∈ e.children, P part) → P e)
    (e : Expr) : P e := by
  induction hn : e.size using Nat.strong_induction_on generalizing e with
  | _ n ih =>
    refine h e fun part hpart => ih part.size ?_ part rfl
    have := size_le_of_mem hpart
    have := size_eq e
    omega

/-- Expressions are visited in the order of the recursive definition, of which there is only one. -/
theorem nodes_eq {order : Expr → List Expr} (h : IsPreorder order) (root : Expr) :
    root.nodes = order root := by
  rw [nodes_eq_preorder]
  induction root using parts_induction with
  | h e ih =>
    have horder : e.children.flatMap preorder = e.children.flatMap order :=
      List.flatMap_congr ih
    rw [h, preorder_eq, preorderAll_eq, horder, children_eq, List.flatMap_append, List.cons_append]

/-! ### Positions -/

/-- A position in an expression: each number picks a part, beginning at the root. -/
abbrev Position := List ℕ

/-- What stands at a position. -/
def at? (e : Expr) : Position → Option Expr
  | [] => some e
  | i :: position => e.children[i]?.bind fun part => part.at? position

/-- What stands at a position in one of several expressions, which the first number picks. -/
def atIn? (es : List Expr) : Position → Option Expr
  | [] => none
  | i :: position => es[i]?.bind fun e => e.at? position

/-- The positions at which something stands, in lexicographic order, with what stands there. -/
structure Enumerates (found? : Position → Option Expr) (positions : List Position)
    (parts : List Expr) : Prop where
  parts : positions.map found? = parts.map some
  ascending : positions.Pairwise (· < ·)
  complete : ∀ position, (found? position).isSome → position ∈ positions

/-- A position in one of several expressions with another one in front of them. -/
def Position.behind : Position → Position
  | [] => []
  | i :: position => (i + 1) :: position

lemma Position.behind_lt_behind {p q : Position} (h : p < q) : p.behind < q.behind := by
  cases p with
  | nil =>
    cases q with
    | nil => exact absurd h (lt_irrefl _)
    | cons j q => exact List.nil_lt_cons _ _
  | cons i p =>
    cases q with
    | nil => exact absurd h (List.not_lt_nil _)
    | cons j q =>
      rw [List.cons_lt_cons_iff] at h
      exact List.cons_lt_cons_iff.2 (h.imp Nat.succ_lt_succ fun ⟨hij, hpq⟩ => ⟨by rw [hij], hpq⟩)

/-- A position above another one comes before it in lexicographic order. -/
lemma Position.lt_of_prefix {above position : Position} (h : above <+: position)
    (hne : above ≠ position) : above < position := by
  obtain ⟨rest, rfl⟩ := h
  cases rest with
  | nil => exact absurd (List.append_nil above).symm hne
  | cons i rest =>
    induction above with
    | nil => exact List.nil_lt_cons i rest
    | cons j above ih => exact List.cons_lt_cons_self.2 (ih (by simp))

/-- Something stands at every position above one at which something stands. -/
lemma isSome_at?_above {e : Expr} {above position : Position} (h : above <+: position)
    (hsome : (e.at? position).isSome) : (e.at? above).isSome := by
  induction above generalizing e position with
  | nil => rfl
  | cons i above ih =>
    obtain ⟨rest, rfl⟩ := h
    rw [List.cons_append, at?, Option.isSome_bind] at hsome
    rw [at?]
    cases hpart : e.children[i]? with
    | none => simp [hpart] at hsome
    | some part =>
      rw [hpart] at hsome
      exact ih (List.prefix_append above rest) hsome

lemma atIn?_behind {e : Expr} {es : List Expr} {position : Position}
    (h : (atIn? es position).isSome) :
    atIn? (e :: es) position.behind = atIn? es position := by
  cases position with
  | nil => cases h
  | cons i position => simp [atIn?, Position.behind]

namespace Enumerates

variable {found? : Position → Option Expr} {positions : List Position} {parts : List Expr}

/-- Something stands at each of the positions. -/
lemma isSome_of_mem (h : Enumerates found? positions parts) {position : Position}
    (hmem : position ∈ positions) : (found? position).isSome := by
  have hfound := List.mem_map_of_mem (f := found?) hmem
  rw [h.parts] at hfound
  obtain ⟨part, _, hpart⟩ := List.mem_map.1 hfound
  rw [← hpart]
  rfl

lemma mem_iff (h : Enumerates found? positions parts) {position : Position} :
    position ∈ positions ↔ (found? position).isSome :=
  ⟨h.isSome_of_mem, h.complete position⟩

/-- No position is listed twice. -/
lemma nodup (h : Enumerates found? positions parts) : positions.Nodup :=
  h.ascending.imp ne_of_lt

/-- A position before another one in lexicographic order is listed before it. -/
lemma idxOf_lt_idxOf (h : Enumerates found? positions parts) {p q : Position}
    (hp : p ∈ positions) (hq : q ∈ positions) (hlt : p < q) :
    positions.idxOf p < positions.idxOf q := by
  by_contra hle
  rcases Nat.lt_or_eq_of_le (Nat.le_of_not_lt hle) with hafter | hsame
  · have hqp := List.pairwise_iff_getElem.1 h.ascending _ _ (List.idxOf_lt_length_of_mem hq)
      (List.idxOf_lt_length_of_mem hp) hafter
    rw [List.getElem_idxOf, List.getElem_idxOf] at hqp
    exact lt_asymm hlt hqp
  · exact hlt.ne ((List.idxOf_inj hp).1 hsame.symm)

/-! ### Lists of positions put together -/

lemma nil : Enumerates (atIn? []) [] [] where
  parts := rfl
  ascending := .nil
  complete position h := by
    cases position with
    | nil => cases h
    | cons i position => simp [atIn?] at h

/-- The positions in one more expression come first. -/
lemma cons {e : Expr} {es : List Expr} {others : List Position} {rest : List Expr}
    (hfirst : Enumerates e.at? positions parts) (hrest : Enumerates (atIn? es) others rest) :
    Enumerates (atIn? (e :: es)) (positions.map (0 :: ·) ++ others.map Position.behind)
      (parts ++ rest) where
  parts := by
    have hbehind : (others.map Position.behind).map (atIn? (e :: es)) = rest.map some := by
      rw [List.map_map, ← hrest.parts]
      exact List.map_congr_left fun position hmem => atIn?_behind (hrest.isSome_of_mem hmem)
    have hfront : (positions.map (0 :: ·)).map (atIn? (e :: es)) = parts.map some := by
      rw [List.map_map, ← hfirst.parts]
      rfl
    rw [List.map_append, hfront, hbehind, List.map_append]
  ascending := by
    rw [List.pairwise_append, List.pairwise_map, List.pairwise_map]
    refine ⟨hfirst.ascending.imp List.cons_lt_cons_self.2,
      hrest.ascending.imp Position.behind_lt_behind, ?_⟩
    intro first hmem second hother
    obtain ⟨p, _, rfl⟩ := List.mem_map.1 hmem
    obtain ⟨q, hq, rfl⟩ := List.mem_map.1 hother
    -- the positions behind begin with a positive number
    cases q with
    | nil => cases hrest.isSome_of_mem hq
    | cons i q => exact List.cons_lt_cons_iff.2 (.inl (Nat.succ_pos i))
  complete position h := by
    rw [List.mem_append]
    match position, h with
    | 0 :: position, h => exact .inl (List.mem_map_of_mem (hfirst.complete position h))
    | (i + 1) :: position, h =>
      exact .inr (List.mem_map_of_mem (f := Position.behind)
        (hrest.complete (i :: position) (by simpa [atIn?] using h)))

/-- The root comes before the positions in its parts. -/
lemma root {e : Expr} (h : Enumerates (atIn? e.children) positions parts) :
    Enumerates e.at? ([] :: positions) (e :: parts) where
  parts := by
    rw [List.map_cons, List.map_cons, ← h.parts]
    refine congrArg _ (List.map_congr_left fun position hmem => ?_)
    cases position with
    | nil => cases h.isSome_of_mem hmem
    | cons i position => rfl
  ascending := by
    refine List.pairwise_cons.2 ⟨fun position hmem => ?_, h.ascending⟩
    cases position with
    | nil => cases h.isSome_of_mem hmem
    | cons i position => exact List.nil_lt_cons i position
  complete position hsome := by
    cases position with
    | nil => exact List.mem_cons_self
    | cons i position => exact List.mem_cons_of_mem _ (h.complete (i :: position) hsome)

end Enumerates

/-- The positions in several expressions, one expression after the other. -/
lemma exists_enumerates_preorderAll {es : List Expr}
    (h : ∀ e ∈ es, ∃ positions, Enumerates e.at? positions e.preorder) :
    ∃ positions, Enumerates (atIn? es) positions (preorderAll es) := by
  induction es with
  | nil => exact ⟨[], .nil⟩
  | cons e rest ih =>
    rw [List.forall_mem_cons] at h
    obtain ⟨positions, hfirst⟩ := h.1
    obtain ⟨others, hrest⟩ := ih h.2
    exact ⟨_, hfirst.cons hrest⟩

/-- The preorder goes through the positions in lexicographic order. -/
theorem exists_enumerates (root : Expr) :
    ∃ positions, Enumerates root.at? positions root.preorder := by
  induction root using parts_induction with
  | h e ih =>
    obtain ⟨positions, hparts⟩ := exists_enumerates_preorderAll ih
    exact ⟨[] :: positions, preorder_eq e ▸ hparts.root⟩

/-- The visit of an expression ends after as many rounds as it has parts, itself included. It goes
in the order of the recursive definition, and comes to every position once, to each after those
above it. -/
theorem visits_all (root : Expr) :
    (∀ n, Visit.after n (.start root) = none ↔ root.nodes.length < n) ∧
      Visit.after root.nodes.length (.start root) = some ⟨root.nodes, []⟩ ∧
      IsPreorder preorder ∧ (∀ order, IsPreorder order → root.nodes = order root) ∧
      ∃ positions, Enumerates root.at? positions root.nodes ∧ positions.Nodup ∧
        ∀ position, (root.at? position).isSome → ∀ above, above <+: position → above ≠ position →
          above ∈ positions ∧ positions.idxOf above < positions.idxOf position := by
  rw [length_nodes]
  refine ⟨Visit.after_start_eq_none_iff root, Visit.after_start root, isPreorder_preorder,
    fun order horder => nodes_eq horder root, ?_⟩
  obtain ⟨positions, hall⟩ := exists_enumerates root
  rw [← nodes_eq_preorder] at hall
  refine ⟨positions, hall, hall.nodup, fun position hsome above habove hne => ?_⟩
  have hmem := hall.complete above (isSome_at?_above habove hsome)
  exact ⟨hmem, hall.idxOf_lt_idxOf hmem (hall.complete position hsome)
    (Position.lt_of_prefix habove hne)⟩

end Expr

end RuleFixtures.PromQL
