import LogSql.Query.Node

/-! Searches in trees. A search runs through the proper descendants of a node, parents before their children.
The place of a node is the list of child positions that lead to it; in the order of lists a node comes
before those below it, and an elder sibling with all below it before a younger one, and this is the order
of a search. What a tree cannot contain follows from the kinds below its root. -/
namespace LogSql.Query.Node

-- Not by `rfl`, which simp would leave to the kernel: that unfolds the name of a kind down to its bytes
-- before it looks at the node.
@[simp] theorem kindMk (kind value : Text) (cs : List Node) : (mk kind value cs).kind = kind := by
  rw [Node.kind]

@[simp] theorem valueMk (kind value : Text) (cs : List Node) : (mk kind value cs).value = value := by
  rw [Node.value]

@[simp] theorem childrenMk (kind value : Text) (cs : List Node) :
    (mk kind value cs).children = cs := rfl

@[simp] theorem kindLeaf (kind value : Text) : (leaf kind value).kind = kind := by
  rw [leaf,kindMk]

@[simp] theorem valueLeaf (kind value : Text) : (leaf kind value).value = value := by
  rw [leaf,valueMk]

@[simp] theorem findAllMk (k kind value : Text) (cs : List Node) :
    (mk kind value cs).findAll k = findAllIn k cs := rfl

@[simp] theorem findAllLeaf (k kind value : Text) : (leaf kind value).findAll k = [] := rfl

@[simp] theorem findAllInNil (k : Text) : findAllIn k [] = [] := rfl

@[simp] theorem findAllInCons (k : Text) (c : Node) (cs : List Node) :
    findAllIn k (c :: cs) = (if c.kind = k then [c] else []) ++ c.findAll k ++ findAllIn k cs := by
  rw [findAllIn]
  split <;> simp

@[simp] theorem findAllInAppend (k : Text) (as bs : List Node) :
    findAllIn k (as ++ bs) = findAllIn k as ++ findAllIn k bs := by
  induction as with
  | nil => rfl
  | cons a as ih => simp [ih]

mutual

/-- The proper descendants of a node, parents before their children. -/
def descendants : Node → List Node
  | mk _ _ cs => descendantsIn cs

@[inherit_doc descendants]
def descendantsIn : List Node → List Node
  | [] => []
  | c :: cs => c :: (descendants c ++ descendantsIn cs)

end

@[simp] theorem descendantsMk (kind value : Text) (cs : List Node) :
    (mk kind value cs).descendants = descendantsIn cs := rfl
@[simp] theorem descendantsLeaf (kind value : Text) : (leaf kind value).descendants = [] := rfl
@[simp] theorem descendantsInNil : descendantsIn [] = [] := rfl
@[simp] theorem descendantsInCons (c : Node) (cs : List Node) :
    descendantsIn (c :: cs) = c :: (c.descendants ++ descendantsIn cs) := rfl

@[simp] theorem descendantsInAppend (as bs : List Node) :
    descendantsIn (as ++ bs) = descendantsIn as ++ descendantsIn bs := by
  induction as with
  | nil => rfl
  | cons a as ih => simp [ih]

theorem descendantsInMem {m : Node} {cs : List Node} (mem : m ∈ descendantsIn cs) :
    ∃ c ∈ cs, m = c ∨ m ∈ c.descendants := by
  induction cs with
  | nil => simp at mem
  | cons c cs ih =>
    simp only [descendantsInCons,List.mem_cons,List.mem_append] at mem
    rcases mem with same | below | later
    · exact ⟨c,List.mem_cons_self,.inl same⟩
    · exact ⟨c,List.mem_cons_self,.inr below⟩
    · obtain ⟨x,inside,found⟩ := ih later
      exact ⟨x,List.mem_cons_of_mem _ inside,found⟩

mutual

theorem findAllFilter (k : Text) :
    (n : Node) → n.findAll k = n.descendants.filter fun m => m.kind = k
  | .mk _ _ cs => findAllInFilter k cs

theorem findAllInFilter (k : Text) :
    (cs : List Node) → findAllIn k cs = (descendantsIn cs).filter fun m => m.kind = k
  | [] => rfl
  | c :: cs => by
    rw [findAllInCons,findAllFilter k c,findAllInFilter k cs,descendantsInCons,List.filter_cons,
      List.filter_append]
    split <;> simp_all

end

mutual

theorem findFirst (k : Text) :
    (n : Node) → n.find? k = n.descendants.find? fun m => m.kind = k
  | .mk _ _ cs => findInFirst k cs

theorem findInFirst (k : Text) :
    (cs : List Node) → findIn? k cs = (descendantsIn cs).find? fun m => m.kind = k
  | [] => rfl
  | c :: cs => by
    rw [findIn?,findFirst k c,findInFirst k cs,descendantsInCons,List.find?_cons,List.find?_append]
    split
    · simp_all
    · cases c.descendants.find? fun m => m.kind = k <;> simp_all

end

theorem findHead (k : Text) (n : Node) : n.find? k = (n.findAll k).head? := by
  rw [findFirst,findAllFilter,List.head?_filter]

theorem descendantsInBelow {c m : Node} {cs : List Node} (mem : c ∈ cs) (inside : m ∈ c.descendants) :
    m ∈ descendantsIn cs := by
  induction cs with
  | nil => contradiction
  | cons x cs ih =>
    simp only [descendantsInCons,List.mem_cons,List.mem_append]
    rcases List.mem_cons.mp mem with rfl | later
    · exact .inr (.inl inside)
    · exact .inr (.inr (ih later))

theorem findBelow {m n : Node} (mem : m ∈ n.descendants) : (n.find? m.kind).isSome = true := by
  rw [findFirst,List.find?_isSome]
  exact ⟨m,mem,by simp⟩

theorem findAllInEach {k : Text} {cs : List Node} (each : ∀ c ∈ cs, c.kind = k ∧ c.findAll k = []) :
    findAllIn k cs = cs := by
  induction cs with
  | nil => rfl
  | cons c cs ih =>
    have head := each c List.mem_cons_self
    have tail := ih fun x mem => each x (List.mem_cons_of_mem _ mem)
    simp [head.1,head.2,tail]

theorem findNone {k : Text} {n : Node} (none : n.findAll k = []) : n.find? k = Option.none := by
  rw [findHead,none]; rfl

theorem valueOfHead (k : Text) (n : Node) :
    n.valueOf k = (((n.findAll k).head?).map value).getD [] := by
  rw [valueOf,findHead]

/-! ### The kinds below a node -/

/-- The kinds of the proper descendants of a node. -/
def kinds (n : Node) : List Text := n.descendants.map kind

@[inherit_doc kinds]
def kindsIn (cs : List Node) : List Text := (descendantsIn cs).map kind

@[simp] theorem kindsMk (kind value : Text) (cs : List Node) : (mk kind value cs).kinds = kindsIn cs := rfl
@[simp] theorem kindsLeaf (kind value : Text) : (leaf kind value).kinds = [] := rfl
@[simp] theorem kindsInNil : kindsIn [] = [] := rfl
@[simp] theorem kindsInCons (c : Node) (cs : List Node) :
    kindsIn (c :: cs) = c.kind :: (c.kinds ++ kindsIn cs) := by
  simp [kindsIn,kinds]

@[simp] theorem kindsInAppend (as bs : List Node) : kindsIn (as ++ bs) = kindsIn as ++ kindsIn bs := by
  simp [kindsIn]

theorem kindsInSubset {allowed : List Text} {cs : List Node}
    (each : ∀ c ∈ cs, c.kind ∈ allowed ∧ c.kinds ⊆ allowed) : kindsIn cs ⊆ allowed := by
  induction cs with
  | nil => simp
  | cons c cs ih =>
    have head := each c List.mem_cons_self
    have tail := ih fun x mem => each x (List.mem_cons_of_mem _ mem)
    simp [head.1,head.2,tail]

/-- Whether a search succeeds follows from the kinds below a node. -/
theorem findKinds (k : Text) (n : Node) : (n.find? k).isSome = decide (k ∈ n.kinds) := by
  rw [findFirst,List.isSome_find?,Bool.eq_iff_iff]
  simp [kinds]

theorem findAllInAbsent {k : Text} (cs : List Node) (absent : k ∉ kindsIn cs) :
    findAllIn k cs = [] := by
  rw [findAllInFilter,List.filter_eq_nil_iff]
  intro m mem
  simp only [decide_eq_true_eq]
  rintro rfl
  exact absent (List.mem_map_of_mem mem)

theorem findAllAbsent {k : Text} (n : Node) (absent : k ∉ n.kinds) : n.findAll k = [] := by
  cases n
  exact findAllInAbsent _ absent

/-! ### Descendants with their places -/

mutual

/-- The proper descendants of a node with their places, parents before their children. -/
def located : Node → List (List Nat × Node)
  | mk _ _ cs => locatedIn 0 cs

/-- The nodes of a list and those below them, where the first of the list stands at a position. -/
def locatedIn (i : Nat) : List Node → List (List Nat × Node)
  | [] => []
  | c :: cs => ([i], c) :: (located c).map (fun q => (i :: q.1, q.2)) ++ locatedIn (i + 1) cs

end

mutual

theorem locatedNodes : (n : Node) → n.located.map Prod.snd = n.descendants
  | .mk _ _ cs => locatedInNodes 0 cs

theorem locatedInNodes : (i : Nat) → (cs : List Node) → (locatedIn i cs).map Prod.snd = descendantsIn cs
  | _, [] => rfl
  | i, c :: cs => by
    have below := locatedNodes c
    have later := locatedInNodes (i + 1) cs
    simp [locatedIn,later,← below,Function.comp_def]

end

mutual

theorem locatedAt : (n : Node) → (p : List Nat) → (m : Node) →
    ((p, m) ∈ n.located ↔ p ≠ [] ∧ n.descend p = some m)
  | .mk k v cs, p, m => by
    rw [located,locatedInAt]
    cases p with
    | nil => simp
    | cons i q =>
      rw [descend]
      constructor
      · rintro ⟨j,r,c,same,found,leads⟩
        obtain ⟨rfl,rfl⟩ := List.cons.inj same
        rw [Nat.zero_add,childrenMk,found]
        exact ⟨List.cons_ne_nil _ _,leads⟩
      · rintro ⟨_,leads⟩
        rw [childrenMk] at leads
        cases found : cs[i]? with
        | none => simp [found] at leads
        | some c =>
          rw [found] at leads
          exact ⟨i,q,c,by rw [Nat.zero_add],found,leads⟩

theorem locatedInAt : (i : Nat) → (cs : List Node) → (p : List Nat) → (m : Node) →
    ((p, m) ∈ locatedIn i cs ↔ ∃ j q c, p = (i + j) :: q ∧ cs[j]? = some c ∧ c.descend q = some m)
  | _, [], p, m => by simp [locatedIn]
  | i, c :: cs, p, m => by
    rw [locatedIn,List.cons_append,List.mem_cons,List.mem_append,List.mem_map,locatedInAt (i + 1) cs]
    constructor
    · rintro (same | ⟨⟨q,x⟩,inside,same⟩ | ⟨j,q,d,rfl,found,leads⟩)
      · cases same
        exact ⟨0,[],c,rfl,rfl,rfl⟩
      · cases same
        exact ⟨0,q,c,rfl,rfl,((locatedAt c q x).mp inside).2⟩
      · exact ⟨j + 1,q,d,by rw [Nat.add_right_comm,Nat.add_assoc],found,leads⟩
    · rintro ⟨j,q,d,rfl,found,leads⟩
      cases j with
      | zero =>
        obtain rfl := Option.some.inj found
        cases q with
        | nil => exact .inl (by rw [Option.some.inj leads]; rfl)
        | cons k q =>
          exact .inr (.inl ⟨(k :: q,m),(locatedAt c _ m).mpr ⟨List.cons_ne_nil _ _,leads⟩,rfl⟩)
      | succ j => exact .inr (.inr ⟨j,q,d,by rw [Nat.add_right_comm,Nat.add_assoc],found,leads⟩)

end

mutual

theorem locatedOrdered : (n : Node) → n.located.Pairwise fun a b => a.1 < b.1
  | .mk _ _ cs => locatedInOrdered 0 cs

theorem locatedInOrdered : (i : Nat) → (cs : List Node) →
    (locatedIn i cs).Pairwise fun a b => a.1 < b.1
  | _, [] => .nil
  | i, c :: cs => by
    have later : ∀ p m, (p, m) ∈ locatedIn (i + 1) cs → ∃ j q, p = j :: q ∧ i < j := by
      intro p m mem
      obtain ⟨j,q,_,rfl,_⟩ := (locatedInAt (i + 1) cs p m).mp mem
      exact ⟨_,q,rfl,by omega⟩
    rw [locatedIn,List.cons_append,List.pairwise_cons,List.pairwise_append,List.pairwise_map]
    refine ⟨?_,?_,locatedInOrdered (i + 1) cs,?_⟩
    · rintro ⟨p,m⟩ mem
      rcases List.mem_append.mp mem with below | behind
      · obtain ⟨⟨q,x⟩,inside,same⟩ := List.mem_map.mp below
        obtain ⟨j,q,rfl⟩ := List.exists_cons_of_ne_nil ((locatedAt c q x).mp inside).1
        cases same
        exact List.cons_lt_cons_iff.mpr (.inr ⟨rfl,List.nil_lt_cons j q⟩)
      · obtain ⟨j,q,rfl,elder⟩ := later p m behind
        exact List.cons_lt_cons_iff.mpr (.inl elder)
    · exact (locatedOrdered c).imp fun before => List.cons_lt_cons_iff.mpr (.inr ⟨rfl,before⟩)
    · rintro ⟨p,m⟩ below ⟨p',m'⟩ behind
      obtain ⟨⟨q,x⟩,_,same⟩ := List.mem_map.mp below
      obtain ⟨j,q',rfl,elder⟩ := later p' m' behind
      cases same
      exact List.cons_lt_cons_iff.mpr (.inl elder)

end

/-! ### What searches find -/

/-- The places of the proper descendants of a kind, each before those that come later in a walk. -/
structure Ranks (n : Node) (k : Text) (places : List (List Nat)) : Prop where
  ordered : places.Pairwise (· < ·)
  exactly (p : List Nat) : p ∈ places ↔ p ≠ [] ∧ ∃ m, n.descend p = some m ∧ m.kind = k

theorem Ranks.unique {n : Node} {k : Text} {places others : List (List Nat)} (ranks : Ranks n k places)
    (also : Ranks n k others) : others = places := by
  have apart {ps : List (List Nat)} (ordered : ps.Pairwise (· < ·)) : ps.Nodup :=
    ordered.imp fun before => by
      rintro rfl
      exact List.lt_irrefl _ before
  have same : others.Perm places := (List.perm_ext_iff_of_nodup (apart also.ordered) (apart ranks.ordered)).mpr
    fun p => (also.exactly p).trans (ranks.exactly p).symm
  exact same.eq_of_pairwise (fun _ _ _ _ before after => absurd after (List.lt_asymm before)) also.ordered
    ranks.ordered

/-- The places that the descendants of a kind have. -/
def placesOf (n : Node) (k : Text) : List (List Nat) :=
  (n.located.filter fun q => q.2.kind = k).map Prod.fst

theorem placesRank (n : Node) (k : Text) : Ranks n k (n.placesOf k) := by
  refine ⟨List.pairwise_map.mpr ((locatedOrdered n).filter _),fun p => ?_⟩
  simp only [placesOf,List.mem_map,List.mem_filter,decide_eq_true_eq]
  constructor
  · rintro ⟨⟨p,m⟩,⟨mem,kind⟩,rfl⟩
    obtain ⟨some,leads⟩ := (locatedAt n p m).mp mem
    exact ⟨some,m,leads,kind⟩
  · rintro ⟨some,m,leads,kind⟩
    exact ⟨(p,m),⟨(locatedAt n p m).mpr ⟨some,leads⟩,kind⟩,rfl⟩

theorem placesFound (n : Node) (k : Text) : (n.placesOf k).map n.descend = (n.findAll k).map some := by
  rw [findAllFilter,← locatedNodes,List.filter_map,List.map_map,placesOf,List.map_map]
  refine List.map_congr_left fun q mem => ?_
  exact ((locatedAt n q.1 q.2).mp (List.mem_filter.mp mem).1).2

/-- All searches for a kind see the same nodes in the same order: those that stand at the places of the
kind, of which there is one list. -/
theorem lookupsAgree (n : Node) (k : Text) (kinds : List Text) :
    (∃ places, Ranks n k places ∧ (∀ others, Ranks n k others → others = places) ∧
      places.map n.descend = (n.findAll k).map some ∧ places.head?.bind n.descend = n.find? k) ∧
    n.find? k = (n.findAll k).head? ∧ (n.find? k = none ↔ n.findAll k = []) ∧
    (n.hasAny kinds = true ↔ ∃ kind ∈ kinds, n.findAll kind ≠ []) ∧
    n.valueOf k = (n.findAll k).head?.elim [] value := by
  have found := placesFound n k
  refine ⟨⟨n.placesOf k,placesRank n k,fun others => (placesRank n k).unique,found,?_⟩,findHead k n,?_,?_,?_⟩
  · rw [findHead]
    have first := congrArg List.head? found
    rw [List.head?_map,List.head?_map] at first
    cases places : (n.placesOf k).head? <;> cases nodes : (n.findAll k).head? <;> simp_all
  · rw [findHead,List.head?_eq_none_iff]
  · simp [hasAny,findHead]
  · rw [valueOfHead]
    cases (n.findAll k).head? <;> rfl

end LogSql.Query.Node
