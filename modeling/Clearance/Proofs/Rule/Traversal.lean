/-
  What the traversals of a tree list, and in which order.

  The nodes of a tree have addresses: the root has the empty one, and the address of a part is that
  of its node and the place of the part among the parts.  In the order of the addresses each node
  stands before its parts, and these stand from left to right.

  * `Expr.Walking` is the loop over a tree under way and `Walking.Turn` one turn of it.  A turn takes
    one node off the stack (`Turn.pending_eq`) and leaves what is listed in the end as it is
    (`Turn.listing_eq`), so the loop ends, with the nodes of `Expr.walk`;
  * `Expr.addresses` are the addresses of the nodes, in their order, and `Expr.walk_eq_filterMap`
    says that the walk lists the nodes at these addresses;
  * `Expr.occurrences` are the paths of a tree with the addresses of their nodes, and
    `Expr.Strays` says of one that neither given tables nor the nodes around it open its table;
  * `Expr.traversals_agree`: the loop, the recursion and the addresses list the same nodes, and the
    scoped paths that no related node opens are those of the paths that stray.
-/
import Clearance.Proofs.Rule.Outline
import Clearance.Proofs.Rule.Tree
import Mathlib.Logic.Relation

namespace Clearance.Expr

open Relation

variable {F : Type}

/-! ## The loop -/

/-- The loop over a tree under way: the trees on the stack, the top one last, and the nodes that
    are listed already. -/
structure Walking (F : Type) where
  stack : List (Expr F)
  listed : List (Expr F)

namespace Walking

/-- The loop at its start. -/
def start (e : Expr F) : Walking F := ⟨[e], []⟩

/-- One turn of the loop: the tree on top is taken off the stack and its node is listed; its parts
    are put on the stack in reverse, so that the first one comes to the top. -/
inductive Turn : Walking F → Walking F → Prop
  | take (stack listed e) :
      Turn ⟨stack ++ [e], listed⟩ ⟨stack ++ e.children.reverse, listed ++ [e]⟩

/-- How many nodes are on the stack. -/
def pending (w : Walking F) : Nat := sizeAll w.stack.reverse

/-- What is listed in the end. -/
def listing (w : Walking F) : List (Expr F) := w.listed ++ preorderAll w.stack.reverse

variable {w w' : Walking F}

theorem Turn.pending_eq (h : w.Turn w') : w'.pending + 1 = w.pending := by
  cases h with
  | take stack listed e =>
    simp only [pending, List.reverse_append, List.reverse_reverse, List.reverse_singleton,
      List.singleton_append, sizeAll_append, sizeAll, size_eq]
    omega

theorem Turn.listing_eq (h : w.Turn w') : w'.listing = w.listing := by
  cases h with
  | take stack listed e =>
    simp only [listing, List.reverse_append, List.reverse_reverse, List.reverse_singleton,
      List.singleton_append, preorderAll_append, preorderAll, preorder_eq e]
    simp

/-- The loop goes on as long as there is something on the stack. -/
theorem exists_turn (h : w.stack ≠ []) : ∃ w', w.Turn w' := by
  obtain ⟨stack, listed⟩ := w
  rcases List.eq_nil_or_concat stack with rfl | ⟨rest, e, rfl⟩
  · exact absurd rfl h
  · rw [List.concat_eq_append]
    exact ⟨_, .take rest listed e⟩

/-- **The loop ends**: no sequence of turns goes on for ever. -/
theorem turn_wellFounded : WellFounded fun w' w : Walking F => w.Turn w' :=
  Subrelation.wf (fun h => Nat.le_of_eq h.pending_eq) (measure pending).wf

/-- Turns leave what is listed in the end as it is. -/
theorem listing_eq_of_turns (h : ReflTransGen Turn w w') : w'.listing = w.listing := by
  induction h with
  | refl => rfl
  | tail _ hturn ih => exact hturn.listing_eq.trans ih

/-- Where the loop over a tree stops, its nodes are listed. -/
theorem listed_of_stopped {e : Expr F} (h : ReflTransGen Turn (start e) w)
    (hstop : ∀ w', ¬ w.Turn w') : w.stack = [] ∧ w.listed = e.walk := by
  have hempty : w.stack = [] := by
    by_contra hne
    obtain ⟨w', hturn⟩ := exists_turn hne
    exact hstop w' hturn
  have hlisting : w.listing = (start e).listing := listing_eq_of_turns h
  refine ⟨hempty, ?_⟩
  rw [walk_eq_preorder]
  simpa [listing, start, hempty, preorderAll] using hlisting

end Walking

/-! ## Addresses -/

mutual

/-- The addresses of the nodes of a tree, each before those of the parts. -/
def addresses : Expr F → List (List Nat)
  | junction _ rules => [] :: addressesFrom 0 rules
  | .not inner => [] :: inner.addresses.map (0 :: ·)
  | related _ _ predicate _ => [] :: predicate.addresses.map (0 :: ·)
  | _ => [[]]

/-- The addresses of the nodes of some parts, of which the first one has the given place. -/
def addressesFrom (place : Nat) : List (Expr F) → List (List Nat)
  | [] => []
  | e :: rest => e.addresses.map (place :: ·) ++ addressesFrom (place + 1) rest

end

theorem addresses_eq (e : Expr F) : e.addresses = [] :: addressesFrom 0 e.children := by
  cases e <;> simp [addresses, addressesFrom, children]

/-- Induction over a tree, with one case for all nodes. -/
@[elab_as_elim]
theorem partsInduction {motive : Expr F → Prop}
    (node : ∀ e, (∀ part ∈ e.children, motive part) → motive e) (e : Expr F) : motive e := by
  induction e using treeInduction with
  | literal | function => exact node _ (by simp [children])
  | leaf e he => exact node _ (by cases e <;> simp_all [isLeaf, children])
  | related kind table predicate minCount ih => exact node _ (by simpa [children] using ih)
  | not e ih => exact node _ (by simpa [children] using ih)
  | junction kind rules ih => exact node _ ih

theorem mem_addressesFrom {es : List (Expr F)} : ∀ {place address}, address ∈ addressesFrom place es ↔
    ∃ i part rest, es[i]? = some part ∧ rest ∈ part.addresses ∧ address = (place + i) :: rest := by
  induction es with
  | nil => simp [addressesFrom]
  | cons e es ih =>
    intro place address
    rw [addressesFrom, List.mem_append, List.mem_map, ih]
    constructor
    · rintro (⟨rest, hr, rfl⟩ | ⟨i, part, rest, hi, hr, rfl⟩)
      · exact ⟨0, e, rest, rfl, hr, rfl⟩
      · exact ⟨i + 1, part, rest, hi, hr, by rw [Nat.add_right_comm, Nat.add_assoc]⟩
    · rintro ⟨i, part, rest, hi, hr, rfl⟩
      cases i with
      | zero =>
        cases hi
        exact .inl ⟨rest, hr, rfl⟩
      | succ i => exact .inr ⟨i, part, rest, hi, hr, by rw [Nat.add_right_comm, Nat.add_assoc]⟩

/-- The addresses are those at which there is a node. -/
theorem mem_addresses (e : Expr F) : ∀ {address}, address ∈ e.addresses ↔
    (e.at? address).isSome = true := by
  induction e using partsInduction with
  | node e ih =>
    intro address
    rw [addresses_eq, List.mem_cons, mem_addressesFrom]
    cases address with
    | nil => simp [at?]
    | cons i rest =>
      rw [at?]
      cases hi : e.children[i]? with
      | none => simp [hi]
      | some part =>
        rw [Option.bind_some, ← ih part (List.mem_of_getElem? hi)]
        simp [hi]

theorem pairwise_addressesFrom {es : List (Expr F)} (h : ∀ e ∈ es, e.addresses.Pairwise (· < ·)) :
    ∀ place, (addressesFrom place es).Pairwise (· < ·) := by
  induction es with
  | nil => exact fun place => .nil
  | cons e es ih =>
    intro place
    rw [addressesFrom, List.pairwise_append]
    refine ⟨?_, ih (fun e he => h e (List.mem_cons_of_mem _ he)) _, ?_⟩
    · refine List.pairwise_map.2 ((h e List.mem_cons_self).imp fun hlt => ?_)
      exact List.cons_lt_cons_iff.2 (.inr ⟨rfl, hlt⟩)
    · intro a ha b hb
      obtain ⟨rest, -, rfl⟩ := List.mem_map.1 ha
      obtain ⟨i, part, rest', -, -, rfl⟩ := mem_addressesFrom.1 hb
      exact List.cons_lt_cons_iff.2 (.inl (by omega))

/-- The addresses stand in their order, each once. -/
theorem pairwise_addresses (e : Expr F) : e.addresses.Pairwise (· < ·) := by
  induction e using partsInduction with
  | node e ih =>
    rw [addresses_eq, List.pairwise_cons]
    refine ⟨fun address h => ?_, pairwise_addressesFrom ih 0⟩
    obtain ⟨i, part, rest, -, -, rfl⟩ := mem_addressesFrom.1 h
    exact List.nil_lt_cons _ _

/-! ## Nodes at their addresses -/

/-- The tables that a node opens for its parts. -/
def opens : Expr F → List String
  | related _ table _ _ => [table]
  | _ => []

/-- The tables that the nodes around an address open, the outermost first. -/
def tablesAround (e : Expr F) : List Nat → List String
  | [] => []
  | i :: rest => e.opens ++ (e.children[i]?.map (tablesAround · rest)).getD []

theorem mem_opens {e : Expr F} {table : String} : table ∈ e.opens ↔
    ∃ kind predicate minCount, e = related kind table predicate minCount := by
  cases e <;> simp [opens, eq_comm]

/-- The tables around an address are those of the related nodes at the addresses before it on the
    way from the root. -/
theorem mem_tablesAround {table : String} {address : List Nat} : ∀ {e : Expr F},
    table ∈ e.tablesAround address ↔ ∃ outer i rest, address = outer ++ i :: rest ∧
      ∃ kind predicate minCount, e.at? outer = some (related kind table predicate minCount) := by
  induction address with
  | nil => simp [tablesAround]
  | cons i address ih =>
    intro e
    rw [tablesAround, List.mem_append, mem_opens]
    constructor
    · rintro (⟨kind, predicate, minCount, rfl⟩ | h)
      · exact ⟨[], i, address, rfl, kind, predicate, minCount, rfl⟩
      · cases hi : e.children[i]? with
        | none => simp [hi] at h
        | some part =>
          rw [hi] at h
          obtain ⟨outer, j, rest, rfl, kind, predicate, minCount, hat⟩ := ih.1 h
          refine ⟨i :: outer, j, rest, rfl, kind, predicate, minCount, ?_⟩
          rw [at?, hi]
          exact hat
    · rintro ⟨outer, j, rest, haddress, kind, predicate, minCount, hat⟩
      cases outer with
      | nil =>
        cases hat
        exact .inl ⟨kind, predicate, minCount, rfl⟩
      | cons k outer =>
        obtain ⟨rfl, rfl⟩ := List.cons.inj haddress
        rw [at?] at hat
        obtain ⟨part, hi, hat⟩ := Option.bind_eq_some_iff.1 hat
        rw [hi]
        exact .inr (ih.2 ⟨outer, j, rest, rfl, kind, predicate, minCount, hat⟩)

/-- The node at an address, with the tables that are open around it. -/
def nestedAt (around : List String) (e : Expr F) (address : List Nat) : Option (Nested (Expr F)) :=
  (e.at? address).map fun node => ⟨around ++ e.tablesAround address, node⟩

theorem scopedNodes_eq (around : List String) (e : Expr F) :
    e.scopedNodes around = ⟨around, e⟩ :: scopedAll (around ++ e.opens) e.children := by
  cases e <;> simp [scopedNodes, scopedAll, opens, children]

/-- What is at an address of a part is what is at the address behind the place of the part. -/
theorem nestedAt_cons {around : List String} {e part : Expr F} {i : Nat}
    (h : e.children[i]? = some part) (address : List Nat) :
    e.nestedAt around (i :: address) = part.nestedAt (around ++ e.opens) address := by
  simp [nestedAt, at?, tablesAround, h]

/-- Some parts of a tree and their scopes, behind those that stand before them. -/
theorem scopedAll_eq_filterMap (around : List String) {e : Expr F}
    (h : ∀ part ∈ e.children, ∀ around,
      part.scopedNodes around = part.addresses.filterMap (part.nestedAt around))
    {rest : List (Expr F)} : ∀ done, e.children = done ++ rest →
      scopedAll (around ++ e.opens) rest =
        (addressesFrom done.length rest).filterMap (e.nestedAt around) := by
  induction rest with
  | nil => exact fun _ _ => rfl
  | cons part rest ih =>
    intro done hc
    have hi : e.children[done.length]? = some part := by simp [hc]
    have hrest := ih (done ++ [part]) (by simpa using hc)
    rw [List.length_append, List.length_singleton] at hrest
    rw [scopedAll, addressesFrom, List.filterMap_append, List.filterMap_map,
      h part (List.mem_of_getElem? hi), hrest]
    congr 1
    exact List.filterMap_congr fun address _ => (nestedAt_cons hi address).symm

/-- **The nodes in their scopes** are the nodes at the addresses. -/
theorem scopedNodes_eq_filterMap (e : Expr F) :
    ∀ around, e.scopedNodes around = e.addresses.filterMap (e.nestedAt around) := by
  induction e using partsInduction with
  | node e ih =>
    intro around
    have hparts := scopedAll_eq_filterMap around ih [] e.children.nil_append.symm
    rw [scopedNodes_eq, addresses_eq, hparts, List.length_nil]
    simp [nestedAt, at?, tablesAround]

/-- The walk lists the nodes at the addresses, in the order of these. -/
theorem walk_eq_filterMap (e : Expr F) : e.walk = e.addresses.filterMap e.at? := by
  rw [← map_scopedNodes_eq_walk [], scopedNodes_eq_filterMap, List.map_filterMap]
  refine List.filterMap_congr fun address _ => ?_
  simp [nestedAt, Function.comp_def]

/-! ## Paths at their addresses -/

/-- The paths of a tree with the addresses of the nodes that hold them. -/
def occurrences (e : Expr F) : List (List Nat × PathRef) :=
  e.addresses.flatMap fun address =>
    ((e.at? address).elim [] nodePaths).map fun p => (address, p)

theorem references_eq_map (around : List String) (e : Expr F) : e.references around =
    e.occurrences.map fun o => ⟨around ++ e.tablesAround o.1, o.2⟩ := by
  rw [references, occurrences, scopedNodes_eq_filterMap, List.map_flatMap]
  induction e.addresses with
  | nil => rfl
  | cons address rest ih =>
    rw [List.flatMap_cons, ← ih, List.filterMap_cons]
    cases h : e.at? address with
    | none => simp [nestedAt, h]
    | some node => simp [nestedAt, h, Function.comp_def]

theorem paths_eq_map (e : Expr F) : e.paths = e.occurrences.map Prod.snd := by
  rw [← map_references_eq_paths [], references_eq_map, List.map_map]
  rfl

/-- A path is scoped to a table that is neither among the given ones nor opened by a related node
    on the way from the root to the node that holds the path. -/
def Strays (e : Expr F) (scopes : List String) (o : List Nat × PathRef) : Prop :=
  o.2.isScoped = true ∧ o.2.table ∉ scopes ∧ ∀ outer i rest, o.1 = outer ++ i :: rest →
    ∀ kind predicate minCount, e.at? outer ≠ some (related kind o.2.table predicate minCount)

theorem strays_iff {e : Expr F} {scopes : List String} {o : List Nat × PathRef} :
    e.Strays scopes o ↔ isStray (scopes ++ e.tablesAround o.1) o.2 = true := by
  have haround : o.2.table ∉ e.tablesAround o.1 ↔ ∀ outer i rest, o.1 = outer ++ i :: rest →
      ∀ kind predicate minCount,
        e.at? outer ≠ some (related kind o.2.table predicate minCount) := by
    rw [mem_tablesAround]
    simp only [not_exists, not_and]
  rw [Strays, ← haround, isStray, Bool.and_eq_true, Bool.not_eq_true', ← Bool.not_eq_true,
    List.contains_iff_mem, List.mem_append, not_or]

instance (e : Expr F) (scopes : List String) : DecidablePred (e.Strays scopes) :=
  fun _ => decidable_of_iff _ strays_iff.symm

/-- With more tables open fewer paths stray. -/
theorem Strays.mono {e : Expr F} {scopes scopes' : List String} (h : scopes ⊆ scopes')
    {o : List Nat × PathRef} (ho : e.Strays scopes' o) : e.Strays scopes o :=
  ⟨ho.1, fun hm => ho.2.1 (h hm), ho.2.2⟩

/-- The scoped paths that no related node opens are the paths that stray, in their order. -/
theorem unscopedPaths_eq_filter (e : Expr F) (scopes : List String) :
    e.unscopedPaths scopes =
      (e.occurrences.filter fun o => e.Strays scopes o).map Prod.snd := by
  rw [e.unscopedPaths_eq scopes scopes fun _ => Iff.rfl, references_eq_map, List.filter_map,
    List.map_map]
  refine congrArg (List.map Prod.snd) (List.filter_congr fun o _ => ?_)
  rw [Bool.eq_iff_iff, decide_eq_true_iff, strays_iff]
  rfl

theorem unscopedPaths_sublist (e : Expr F) {scopes scopes' : List String} (h : scopes ⊆ scopes') :
    (e.unscopedPaths scopes').Sublist (e.unscopedPaths scopes) := by
  rw [unscopedPaths_eq_filter, unscopedPaths_eq_filter]
  refine (List.monotone_filter_right _ fun o ho => ?_).map _
  rw [decide_eq_true_iff] at ho ⊢
  exact ho.mono h

/-! ## The traversals together -/

/-- **The traversals agree.**  The loop ends, and where it stops it has listed the nodes of the walk;
    these are the nodes of the recursion, and those at the addresses of the tree, in the order of
    the addresses and each once.  The paths of the tree are those of the nodes in this order, and
    the scoped paths that no related node opens are, in the same order, the paths that stray; the
    more tables are open from the start, the fewer of them are left. -/
theorem traversals_agree (e : Expr F) :
    ((WellFounded fun w' w : Walking F => w.Turn w') ∧
      ∀ w, ReflTransGen Walking.Turn (.start e) w → (∀ w', ¬ w.Turn w') →
        w.stack = [] ∧ w.listed = e.walk) ∧
    e.walk = e.preorder ∧
    (e.walk = e.addresses.filterMap e.at? ∧ e.addresses.Pairwise (· < ·) ∧
      ∀ address, address ∈ e.addresses ↔ (e.at? address).isSome = true) ∧
    (e.paths = e.preorder.flatMap nodePaths ∧ e.paths = e.occurrences.map Prod.snd) ∧
    (∀ scopes, e.unscopedPaths scopes =
      (e.occurrences.filter fun o => e.Strays scopes o).map Prod.snd) ∧
    ∀ scopes scopes', scopes ⊆ scopes' →
      (e.unscopedPaths scopes').Sublist (e.unscopedPaths scopes) := by
  refine ⟨⟨Walking.turn_wellFounded, fun w h hstop => Walking.listed_of_stopped h hstop⟩,
    e.walk_eq_preorder, ⟨e.walk_eq_filterMap, e.pairwise_addresses, fun _ => e.mem_addresses⟩,
    ⟨?_, e.paths_eq_map⟩, e.unscopedPaths_eq_filter, fun _ _ h => e.unscopedPaths_sublist h⟩
  rw [paths, walk_eq_preorder]

/-- An item has a note of its own that is liked and has some tag; nothing opens the tags. -/
def likedAndTagged : Expr Empty :=
  related .exists "notes" (junction .and [
    comparison .eq ⟨true, "notes", "item_id"⟩ (.path ⟨false, "item", "id"⟩),
    related .exists "likes" (comparison .eq ⟨true, "likes", "note_id"⟩
      (.path ⟨true, "notes", "id"⟩)) 1,
    .not (nullCheck .isNull ⟨true, "tags", "id"⟩)]) 1

/-- Below two related nodes each path is read in both of their scopes, beside them it is not. -/
theorem traversals_agree_of_likes :
    likedAndTagged.unscopedPaths [] = [⟨true, "tags", "id"⟩] ∧
      [] ⊆ ["tags"] ∧ likedAndTagged.unscopedPaths ["tags"] = [] ∧
      (likedAndTagged.unscopedPaths ["tags"]).Sublist (likedAndTagged.unscopedPaths []) ∧
      likedAndTagged.addresses = [[], [0], [0, 0], [0, 1], [0, 1, 0], [0, 2], [0, 2, 0]] :=
  have hsub : ([] : List String) ⊆ ["tags"] := List.nil_subset _
  ⟨rfl, hsub, rfl, (traversals_agree likedAndTagged).2.2.2.2.2 [] ["tags"] hsub, rfl⟩

end Clearance.Expr
