import SelfTestCode.Broker.Commands
import SelfTestCode.Framework.Links

/-!
# Moving a node between two lists

`smemlistMoveNode` of `smem4redis.c`, on a heap of nodes and list headers.  The channel table of the
broker's model holds plain lists; this module has the pointers behind them.  A header is well formed
for a sequence of nodes if these are linked both ways from end to end and the header's three fields
fit.  The function first takes the node out of its list (`detach`) and then puts it in front of the
other one (`attach`); each half has one rule, and the two lists may be one and the same.

`moveNode_channels` connects the heap with `Broker.smemlistMoveNode`, the same step on the table.
-/

namespace SelfTestCode.Broker.Adlist

open Links

/-- `list`, without its callbacks.  No memory holds `2 ^ 64` nodes, so `len` does not wrap. -/
structure AdList (P : Type*) where
  head : Option P
  tail : Option P
  len : ℕ
  deriving DecidableEq

/-- The nodes and the list headers, by their addresses.  The values of the nodes are left out: none
of them is touched. -/
structure Heap (L P : Type*) where
  node : P → Links P
  list : L → AdList P

section Model

variable {L P : Type*} [DecidableEq L] [DecidableEq P]

/-- `x->next = v`. -/
def Heap.setNext (h : Heap L P) (x : P) (v : Option P) : Heap L P :=
  { h with node := Links.setNext h.node x v }

/-- `x->prev = v`. -/
def Heap.setPrev (h : Heap L P) (x : P) (v : Option P) : Heap L P :=
  { h with node := Links.setPrev h.node x v }

/-- A write to the fields of a header. -/
def Heap.setList (h : Heap L P) (l : L) (f : AdList P → AdList P) : Heap L P :=
  { h with list := Function.update h.list l (f (h.list l)) }

/-- What comes before the node now leads to what is behind it. -/
def bypassNext (h : Heap L P) (listSrc : L) (node : P) : Heap L P :=
  match (h.node node).prev with
  | some prev => h.setNext prev (h.node node).next
  | none => h.setList listSrc fun l => { l with head := (h.node node).next }

/-- What is behind the node now leads back to what comes before it. -/
def bypassPrev (h : Heap L P) (listSrc : L) (node : P) : Heap L P :=
  match (h.node node).next with
  | some next => h.setPrev next (h.node node).prev
  | none => h.setList listSrc fun l => { l with tail := (h.node node).prev }

/-- `smemlistMoveNode`, `del from src list`. -/
def detach (h : Heap L P) (listSrc : L) (node : P) : Heap L P :=
  (bypassPrev (bypassNext h listSrc node) listSrc node).setList listSrc
    fun l => { l with len := l.len - 1 }

/-- `smemlistMoveNode`, `add to dst list`; `none` if `list_dst->head->prev` is written through a
null pointer. -/
def attach (h : Heap L P) (listDst : L) (node : P) : Option (Heap L P) :=
  if (h.list listDst).len = 0 then
    let h₁ := h.setList listDst fun l => { l with head := some node, tail := some node }
    let h₂ := (h₁.setNext node none).setPrev node none
    some (h₂.setList listDst fun l => { l with len := l.len + 1 })
  else
    let h₁ := h.setPrev node none
    let h₂ := h₁.setNext node (h₁.list listDst).head
    match (h₂.list listDst).head with
    | none => none
    | some first =>
      let h₃ := h₂.setPrev first (some node)
      let h₄ := h₃.setList listDst fun l => { l with head := some node }
      some (h₄.setList listDst fun l => { l with len := l.len + 1 })

/-- `smemlistMoveNode`. -/
def smemlistMoveNode (h : Heap L P) (listSrc listDst : L) (node : P) : Option (Heap L P) :=
  attach (detach h listSrc node) listDst node

end Model

/-! ## Well-formed lists -/

/-- The header `l` is that of the sequence `xs`. -/
structure WellFormed {L P : Type*} (h : Heap L P) (l : L) (xs : List P) : Prop where
  linked : Linked h.node none xs none
  head : (h.list l).head = xs.head?
  tail : (h.list l).tail = xs.getLast?
  len : (h.list l).len = xs.length

section WellFormed

variable {L P : Type*} {h h' : Heap L P} {l : L} {xs ys : List P}

lemma WellFormed.nodup (hl : WellFormed h l xs) : xs.Nodup := hl.linked.nodup

/-- The sequence of a header is determined. -/
theorem WellFormed.eq (hl : WellFormed h l xs) (hl' : WellFormed h l ys) : xs = ys :=
  hl.linked.eq_of_head? hl'.linked (hl.head.symm.trans hl'.head)

/-- What is written elsewhere leaves a list well formed. -/
lemma WellFormed.congr (hl : WellFormed h l xs) (hnode : ∀ x ∈ xs, h'.node x = h.node x)
    (hlist : h'.list l = h.list l) : WellFormed h' l xs where
  linked := hl.linked.congr hnode
  head := by rw [hlist, hl.head]
  tail := by rw [hlist, hl.tail]
  len := by rw [hlist, hl.len]

end WellFormed

/-! ## The two halves -/

section Updates

variable {L P : Type*} {h : Heap L P} {l : L} {x : P}

@[simp] lemma node_setNext [DecidableEq P] (v : Option P) :
    (h.setNext x v).node = Links.setNext h.node x v := rfl

@[simp] lemma node_setPrev [DecidableEq P] (v : Option P) :
    (h.setPrev x v).node = Links.setPrev h.node x v := rfl

@[simp] lemma list_setNext [DecidableEq P] (v : Option P) : (h.setNext x v).list = h.list := rfl

@[simp] lemma list_setPrev [DecidableEq P] (v : Option P) : (h.setPrev x v).list = h.list := rfl

variable [DecidableEq L] (f : AdList P → AdList P)

@[simp] lemma node_setList : (h.setList l f).node = h.node := rfl

@[simp] lemma list_setList_self : (h.setList l f).list l = f (h.list l) :=
  Function.update_self ..

@[simp] lemma list_setList_of_ne {l' : L} (hne : l' ≠ l) :
    (h.setList l f).list l' = h.list l' := Function.update_of_ne hne ..

end Updates

section Halves

variable {L P : Type*} [DecidableEq L] [DecidableEq P] {h : Heap L P} {l : L} {x : P}
  {as bs ys : List P}

/-- After the first bypass the nodes before `x` lead to those behind it. -/
lemma bypassNext_spec {q : Option P} (hprev : (h.node x).prev = as.getLast?)
    (has : Linked h.node none as q) (hnodup : as.Nodup) :
    Linked (bypassNext h l x).node none as (h.node x).next ∧
    (∀ y ∉ as, (bypassNext h l x).node y = h.node y) ∧
    (bypassNext h l x).list l
      = { h.list l with head := if as = [] then (h.node x).next else (h.list l).head } ∧
    ∀ l' ≠ l, (bypassNext h l x).list l' = h.list l' := by
  rw [bypassNext, hprev]
  rcases List.eq_nil_or_concat as with rfl | ⟨as, p, rfl⟩
  · refine ⟨trivial, fun y _ => rfl, ?_, fun l' hne => list_setList_of_ne _ hne⟩
    simp
  · rw [List.concat_eq_append] at has hnodup ⊢
    have hp : p ∉ as := fun hp =>
      (List.nodup_append.mp hnodup).2.2 p hp p List.mem_cons_self rfl
    rw [List.getLast?_concat]
    refine ⟨has.setNext_last hp _, fun y hy => ?_, by simp, fun l' hne => rfl⟩
    refine setNext_of_ne _ ?_ _
    rintro rfl
    exact hy (by simp)

/-- After the second bypass the nodes behind `x` lead back to those before it. -/
lemma bypassPrev_spec {p : Option P} (hnext : (h.node x).next = bs.head?)
    (hbs : Linked h.node p bs none) (hnodup : bs.Nodup) :
    Linked (bypassPrev h l x).node (h.node x).prev bs none ∧
    (∀ y ∉ bs, (bypassPrev h l x).node y = h.node y) ∧
    (bypassPrev h l x).list l
      = { h.list l with tail := if bs = [] then (h.node x).prev else (h.list l).tail } ∧
    ∀ l' ≠ l, (bypassPrev h l x).list l' = h.list l' := by
  rw [bypassPrev, hnext]
  cases bs with
  | nil =>
    refine ⟨trivial, fun y _ => rfl, ?_, fun l' hne => list_setList_of_ne _ hne⟩
    simp
  | cons n bs =>
    rw [List.head?_cons]
    refine ⟨hbs.setPrev_first (List.nodup_cons.mp hnodup).1 _, fun y hy => ?_, by simp,
      fun l' hne => rfl⟩
    refine setPrev_of_ne _ ?_ _
    rintro rfl
    exact hy List.mem_cons_self

/-- A node is taken out between the nodes before and behind it. -/
lemma WellFormed.detach_append (hl : WellFormed h l (as ++ x :: bs)) :
    WellFormed (detach h l x) l (as ++ bs) ∧
    (∀ y ∉ as ++ x :: bs, (detach h l x).node y = h.node y) ∧
    ∀ l' ≠ l, (detach h l x).list l' = h.list l' := by
  have hnodup := hl.nodup
  rw [List.nodup_append, List.nodup_cons] at hnodup
  obtain ⟨hnas, ⟨hxbs, hnbs⟩, hdisjoint⟩ := hnodup
  have hxas : x ∉ as := fun hx => hdisjoint x hx x List.mem_cons_self rfl
  obtain ⟨has, hprev, hnext, hbs⟩ := linked_append.mp hl.linked
  rw [Option.or_none] at hprev hnext
  obtain ⟨has₁, hnode₁, hlist₁, hother₁⟩ := bypassNext_spec (l := l) hprev has hnas
  -- the first bypass writes to no node from `x` on
  have hbs₁ : Linked (bypassNext h l x).node (some x) bs none := by
    refine hbs.congr fun y hy => hnode₁ y fun hyas => ?_
    exact hdisjoint y hyas y (List.mem_cons_of_mem x hy) rfl
  have hnext₁ : ((bypassNext h l x).node x).next = bs.head? := by rw [hnode₁ x hxas, hnext]
  obtain ⟨hbs₂, hnode₂, hlist₂, hother₂⟩ := bypassPrev_spec (l := l) hnext₁ hbs₁ hnbs
  have hlist : (detach h l x).list l =
      { head := if as = [] then (h.node x).next else (h.list l).head
        tail := if bs = [] then (h.node x).prev else (h.list l).tail
        len := (h.list l).len - 1 } := by
    rw [detach, list_setList_self, hlist₂, hlist₁, hnode₁ x hxas]
  refine ⟨⟨?_, ?_, ?_, ?_⟩, ?_, ?_⟩
  · refine linked_append.mpr ⟨?_, ?_⟩
    · rw [Option.or_none, ← hnext]
      refine has₁.congr fun y hy => hnode₂ y fun hybs => ?_
      exact hdisjoint y hy y (List.mem_cons_of_mem x hybs) rfl
    · rw [Option.or_none, ← hprev, ← hnode₁ x hxas]
      exact hbs₂
  · rw [hlist, hl.head, hnext]
    cases as <;> rfl
  · rw [hlist, hl.tail, hprev, List.getLast?_append, List.getLast?_append]
    cases bs with
    | nil => rfl
    | cons n bs => simp [List.getLast?_cons]
  · rw [hlist, hl.len, List.length_append, List.length_append, List.length_cons]
    rfl
  · intro y hy
    rw [List.mem_append, List.mem_cons, not_or, not_or] at hy
    rw [detach, node_setList, hnode₂ y hy.2.2, hnode₁ y hy.1]
  · intro l' hne
    rw [detach, list_setList_of_ne _ hne, hother₂ l' hne, hother₁ l' hne]

/-- A node is taken out of its list. -/
lemma WellFormed.detach (hl : WellFormed h l ys) (hx : x ∈ ys) :
    WellFormed (detach h l x) l (ys.erase x) ∧
    (∀ y ∉ ys, (Adlist.detach h l x).node y = h.node y) ∧
    ∀ l' ≠ l, (Adlist.detach h l x).list l' = h.list l' := by
  obtain ⟨as, bs, rfl⟩ := List.append_of_mem hx
  have hnotMem : x ∉ as ++ bs := (List.nodup_cons.mp (List.nodup_middle.mp hl.nodup)).1
  rw [List.erase_append_right _ fun hmem => hnotMem (List.mem_append_left bs hmem),
    List.erase_cons_head]
  exact hl.detach_append

/-- A node of no list is put in front of one, and no null pointer is followed. -/
lemma WellFormed.attach (hl : WellFormed h l ys) (hx : x ∉ ys) :
    ∃ h', attach h l x = some h' ∧ WellFormed h' l (x :: ys) ∧
      (∀ y ∉ x :: ys, h'.node y = h.node y) ∧ ∀ l' ≠ l, h'.list l' = h.list l' := by
  rw [Adlist.attach, hl.len]
  cases ys with
  | nil =>
    refine ⟨_, if_pos rfl, ⟨⟨?_, ?_, trivial⟩, ?_, ?_, ?_⟩, ?_, ?_⟩
    · simp
    · simp
    · simp
    · simp
    · simp [hl.len]
    · intro y hy
      have hne : y ≠ x := fun heq => hy (heq ▸ List.mem_cons_self)
      simp [setPrev_of_ne, setNext_of_ne, hne]
    · intro l' hne
      simp [hne]
  | cons first ys =>
    have hne : first ≠ x := fun heq => hx (heq ▸ List.mem_cons_self)
    have hhead : (h.list l).head = some first := hl.head
    simp only [List.length_cons, Nat.add_eq_zero_iff, one_ne_zero, and_false, if_false,
      list_setNext, list_setPrev, hhead]
    refine ⟨_, rfl, ⟨⟨?_, ?_, ?_⟩, ?_, ?_, ?_⟩, ?_, ?_⟩
    · simp [setPrev_of_ne, hne.symm]
    · simp [setPrev_of_ne, hne.symm]
    · exact ((hl.linked.setPrev_of_notMem hx none).setNext_of_notMem hx _).setPrev_first
        (List.nodup_cons.mp hl.nodup).1 (some x)
    · simp
    · simp [hl.tail, List.getLast?_cons]
    · simp [hl.len]
    · intro y hy
      rw [List.mem_cons, List.mem_cons, not_or, not_or] at hy
      simp [setPrev_of_ne, setNext_of_ne, hy.1, hy.2.1]
    · intro l' hne
      simp [hne]

end Halves

/-! ## The move -/

section Move

variable {L P : Type*} [DecidableEq L] [DecidableEq P] {h : Heap L P} {listSrc listDst : L}
  {node : P} {xs ys : List P}

/-- A move within one list. -/
lemma WellFormed.moveNode_self {l : L} (hl : WellFormed h l xs) (hnode : node ∈ xs) :
    ∃ h', smemlistMoveNode h l l node = some h' ∧ WellFormed h' l (node :: xs.erase node) ∧
      (∀ x ∉ xs, h'.node x = h.node x) ∧ ∀ l' ≠ l, h'.list l' = h.list l' := by
  obtain ⟨hl₁, hnode₁, hlist₁⟩ := hl.detach hnode
  obtain ⟨h', hattach, hl', hnode', hlist'⟩ := hl₁.attach hl.nodup.not_mem_erase
  refine ⟨h', hattach, hl', fun x hx => ?_, fun l' hne => ?_⟩
  · have hne : x ≠ node := fun heq => hx (heq ▸ hnode)
    have hrest : x ∉ xs.erase node := fun hmem => hx (List.mem_of_mem_erase hmem)
    rw [hnode' x (List.not_mem_cons_of_ne_of_not_mem hne hrest), hnode₁ x hx]
  · rw [hlist' l' hne, hlist₁ l' hne]

/-- A move to another list. -/
lemma WellFormed.moveNode_of_ne (hsrc : WellFormed h listSrc xs) (hdst : WellFormed h listDst ys)
    (hne : listSrc ≠ listDst) (hdisjoint : List.Disjoint xs ys) (hnode : node ∈ xs) :
    ∃ h', smemlistMoveNode h listSrc listDst node = some h' ∧
      WellFormed h' listSrc (xs.erase node) ∧ WellFormed h' listDst (node :: ys) ∧
      (∀ x, x ∉ xs → x ∉ ys → h'.node x = h.node x) ∧
      ∀ l, l ≠ listSrc → l ≠ listDst → h'.list l = h.list l := by
  obtain ⟨hsrc₁, hnode₁, hlist₁⟩ := hsrc.detach hnode
  have hdst₁ : WellFormed (Adlist.detach h listSrc node) listDst ys :=
    hdst.congr (fun x hx => hnode₁ x (hdisjoint.symm hx)) (hlist₁ listDst hne.symm)
  obtain ⟨h', hattach, hdst', hnode', hlist'⟩ := hdst₁.attach (hdisjoint hnode)
  -- the nodes that stay in the source are not those of the destination
  have hrest : ∀ x ∈ xs.erase node, x ∉ node :: ys := by
    intro x hx hmem
    rcases List.mem_cons.mp hmem with rfl | hmem
    · exact hsrc.nodup.not_mem_erase hx
    · exact hdisjoint (List.mem_of_mem_erase hx) hmem
  refine ⟨h', hattach, ?_, hdst', fun x hx hy => ?_, fun l hl hl' => ?_⟩
  · exact hsrc₁.congr (fun x hx => hnode' x (hrest x hx)) (hlist' listSrc hne)
  · have hne : x ≠ node := fun heq => hx (heq ▸ hnode)
    rw [hnode' x (List.not_mem_cons_of_ne_of_not_mem hne hy), hnode₁ x hx]
  · rw [hlist' l hl', hlist₁ l hl]

/-- A node of a well-formed list moves to the front of another well-formed list, or of the same one.
No null pointer is followed, both lists are well formed again, and nothing else changes. -/
theorem moveNode_wellFormed (hsrc : WellFormed h listSrc xs) (hdst : WellFormed h listDst ys)
    (hlists : listSrc = listDst ∨ List.Disjoint xs ys) (hnode : node ∈ xs) :
    ∃ h', smemlistMoveNode h listSrc listDst node = some h' ∧
      (listSrc ≠ listDst →
        WellFormed h' listSrc (xs.erase node) ∧ WellFormed h' listDst (node :: ys)) ∧
      (listSrc = listDst → WellFormed h' listDst (node :: xs.erase node)) ∧
      (∀ x, x ∉ xs → x ∉ ys → h'.node x = h.node x) ∧
      ∀ l, l ≠ listSrc → l ≠ listDst → h'.list l = h.list l := by
  by_cases heq : listSrc = listDst
  · subst heq
    obtain ⟨h', hmove, hdst', hnode', hlist'⟩ := hsrc.moveNode_self hnode
    exact ⟨h', hmove, fun hne => absurd rfl hne, fun _ => hdst', fun x hx _ => hnode' x hx,
      fun l hl _ => hlist' l hl⟩
  · obtain ⟨h', hmove, hsrc', hdst', hnode', hlist'⟩ :=
      hsrc.moveNode_of_ne hdst heq (hlists.resolve_left heq) hnode
    exact ⟨h', hmove, fun _ => ⟨hsrc', hdst'⟩, fun h => absurd h heq, hnode', hlist'⟩

/-- Three nodes of the list `false`, and the only node of the list `true`. -/
def twoLists : Heap Bool ℕ where
  node
    | 1 => ⟨none, some 2⟩
    | 2 => ⟨some 1, some 3⟩
    | 3 => ⟨some 2, none⟩
    | _ => ⟨none, none⟩
  list
    | false => ⟨some 1, some 3, 3⟩
    | true => ⟨some 7, some 7, 1⟩

theorem moveNode_wellFormed_twoLists :
    ∃ h', smemlistMoveNode twoLists false true 2 = some h' ∧
      WellFormed h' false [1, 3] ∧ WellFormed h' true [2, 7] := by
  have hsrc : WellFormed twoLists false [1, 2, 3] :=
    ⟨⟨rfl, rfl, rfl, rfl, rfl, rfl, trivial⟩, rfl, rfl, rfl⟩
  have hdst : WellFormed twoLists true [7] := ⟨⟨rfl, rfl, trivial⟩, rfl, rfl, rfl⟩
  obtain ⟨h', hmove, hlists, -⟩ :=
    moveNode_wellFormed hsrc hdst (Or.inr (by simp [List.Disjoint])) (by decide : 2 ∈ [1, 2, 3])
  exact ⟨h', hmove, hlists (by decide)⟩

end Move

/-! ## The channel table -/

/-- The lists of the channel table, as headers and nodes with the clients as their values. -/
structure Represents {L P : Type*} (value : P → ClientId) (header : Sds → L) (h : Heap L P)
    (nodes : Sds → List P) (channels : Dict Sds (List ClientId)) : Prop where
  wellFormed : ∀ k ∈ channels, WellFormed h (header k) (nodes k)
  clients : ∀ k ∈ channels, channels.lookup k = some ((nodes k).map value)
  header_injective : Function.Injective header
  disjoint : ∀ k ∈ channels, ∀ k' ∈ channels, k ≠ k' → List.Disjoint (nodes k) (nodes k')

section Channels

variable {L P : Type*} [DecidableEq P] {value : P → ClientId} {header : Sds → L} {h : Heap L P}
  {nodes : Sds → List P} {channels : Dict Sds (List ClientId)} {src dst : Sds}

/-- The nodes after a move, by channel. -/
def moveNodes (nodes : Sds → List P) (src : Sds) (node : P) (dst : Sds) : Sds → List P :=
  let nodes₁ := Function.update nodes src ((nodes src).erase node)
  Function.update nodes₁ dst (node :: nodes₁ dst)

lemma moveNodes_self {node : P} :
    moveNodes nodes src node src src = node :: (nodes src).erase node := by
  rw [moveNodes, Function.update_self, Function.update_self]

lemma moveNodes_dst {node : P} (h : src ≠ dst) :
    moveNodes nodes src node dst dst = node :: nodes dst := by
  rw [moveNodes, Function.update_self, Function.update_of_ne h.symm]

lemma moveNodes_src {node : P} (h : src ≠ dst) :
    moveNodes nodes src node dst src = (nodes src).erase node := by
  rw [moveNodes, Function.update_of_ne h, Function.update_self]

lemma moveNodes_of_ne {node : P} {k : Sds} (hsrc : k ≠ src) (hdst : k ≠ dst) :
    moveNodes nodes src node dst k = nodes k := by
  rw [moveNodes, Function.update_of_ne hdst, Function.update_of_ne hsrc]

/-- The moved node is in the list of `dst` only, every other one where it was. -/
lemma Represents.mem_moveNodes (hrep : Represents value header h nodes channels)
    (hsrc : src ∈ channels) {node x : P} {k : Sds} (hk : k ∈ channels)
    (hnode : node ∈ nodes src) (hx : x ∈ moveNodes nodes src node dst k) :
    x = node ∧ k = dst ∨ x ≠ node ∧ x ∈ nodes k := by
  have hnodup := (hrep.wellFormed src hsrc).nodup
  have hne : k ≠ src → x ∈ nodes k → x ≠ node := by
    rintro hne hmem rfl
    exact hrep.disjoint k hk src hsrc hne hmem hnode
  have herase : x ∈ (nodes src).erase node → x ≠ node ∧ x ∈ nodes src :=
    hnodup.mem_erase_iff.mp
  rcases eq_or_ne k dst with rfl | hkdst
  · rcases eq_or_ne src k with rfl | hsrck
    · rw [moveNodes_self, List.mem_cons] at hx
      exact hx.imp (fun h => ⟨h, rfl⟩) herase
    · rw [moveNodes_dst hsrck, List.mem_cons] at hx
      exact hx.imp (fun h => ⟨h, rfl⟩) fun h => ⟨hne hsrck.symm h, h⟩
  · rcases eq_or_ne k src with rfl | hksrc
    · rw [moveNodes_src hkdst] at hx
      exact Or.inr (herase hx)
    · rw [moveNodes_of_ne hksrc hkdst] at hx
      exact Or.inr ⟨hne hksrc hx, hx⟩

/-- The table after a move has the same channels, with the clients of the nodes that are there. -/
lemma Represents.lookup_moveNode (hrep : Represents value header h nodes channels)
    (hsrc : src ∈ channels) (hdst : dst ∈ channels) {i : ℕ} {node : P}
    (hnode : (nodes src)[i]? = some node) (k : Sds) :
    (Broker.smemlistMoveNode channels src i dst).lookup k
      = (channels.lookup k).map fun _ => (moveNodes nodes src node dst k).map value := by
  obtain ⟨hi, hget⟩ := List.getElem?_eq_some_iff.mp hnode
  have herase : (nodes src).erase node = (nodes src).eraseIdx i := by
    rw [← hget, (hrep.wellFormed src hsrc).nodup.erase_getElem i hi]
  have hlookup : ∀ k' ∈ channels, channels.lookup k' = some ((nodes k').map value) := hrep.clients
  rw [Broker.smemlistMoveNode, hlookup src hsrc, Option.getD_some, List.getElem?_map, hnode]
  simp only [Option.map_some, Dict.lookup_insert_if, List.eraseIdx_map, ← herase]
  rcases eq_or_ne k dst with rfl | hkdst
  · rcases eq_or_ne src k with rfl | hsrck
    · simp [moveNodes_self, hlookup src hsrc]
    · simp [moveNodes_dst hsrck, hlookup k hdst, hsrck.symm]
  · rcases eq_or_ne k src with rfl | hksrc
    · simp [moveNodes_src hkdst, hlookup k hsrc, hkdst]
    · rw [if_neg hkdst, if_neg hksrc, moveNodes_of_ne hksrc hkdst]
      cases hk : channels.lookup k with
      | none => rfl
      | some clients =>
        rw [← hk, hlookup k (AList.lookup_isSome.mp (by rw [hk]; rfl))]
        rfl

/-- The move on the heap is the move on the channel table. -/
theorem moveNode_channels [DecidableEq L] (hrep : Represents value header h nodes channels)
    (hsrc : src ∈ channels) (hdst : dst ∈ channels) {i : ℕ} {node : P}
    (hnode : (nodes src)[i]? = some node) :
    ∃ h', smemlistMoveNode h (header src) (header dst) node = some h' ∧
      Represents value header h' (moveNodes nodes src node dst)
        (Broker.smemlistMoveNode channels src i dst) := by
  have hmem : node ∈ nodes src := List.mem_of_getElem? hnode
  have hlookup := hrep.lookup_moveNode hsrc hdst hnode
  have hkeys : ∀ k ∈ Broker.smemlistMoveNode channels src i dst, k ∈ channels := by
    intro k hk
    rw [← AList.lookup_isSome, hlookup k, Option.isSome_map] at hk
    exact AList.lookup_isSome.mp hk
  -- what the move does to the lists of the heap
  obtain ⟨h', hmove, hlists⟩ : ∃ h', smemlistMoveNode h (header src) (header dst) node = some h' ∧
      ∀ k ∈ channels, WellFormed h' (header k) (moveNodes nodes src node dst k) := by
    rcases eq_or_ne src dst with rfl | hne
    · obtain ⟨h', hmove, hself, hother, hlist⟩ := (hrep.wellFormed src hsrc).moveNode_self hmem
      refine ⟨h', hmove, fun k hk => ?_⟩
      rcases eq_or_ne k src with rfl | hksrc
      · rw [moveNodes_self]
        exact hself
      · rw [moveNodes_of_ne hksrc hksrc]
        exact (hrep.wellFormed k hk).congr
          (fun x hx => hother x (hrep.disjoint k hk src hsrc hksrc hx))
          (hlist _ (hrep.header_injective.ne hksrc))
    · obtain ⟨h', hmove, hsrc', hdst', hother, hlist⟩ :=
        (hrep.wellFormed src hsrc).moveNode_of_ne (hrep.wellFormed dst hdst)
          (hrep.header_injective.ne hne) (hrep.disjoint src hsrc dst hdst hne) hmem
      refine ⟨h', hmove, fun k hk => ?_⟩
      rcases eq_or_ne k src with rfl | hksrc
      · rw [moveNodes_src hne]
        exact hsrc'
      · rcases eq_or_ne k dst with rfl | hkdst
        · rw [moveNodes_dst hne]
          exact hdst'
        · rw [moveNodes_of_ne hksrc hkdst]
          exact (hrep.wellFormed k hk).congr
            (fun x hx => hother x (hrep.disjoint k hk src hsrc hksrc hx)
              (hrep.disjoint k hk dst hdst hkdst hx))
            (hlist _ (hrep.header_injective.ne hksrc) (hrep.header_injective.ne hkdst))
  refine ⟨h', hmove, ?_, ?_, hrep.header_injective, ?_⟩
  · exact fun k hk => hlists k (hkeys k hk)
  · intro k hk
    rw [hlookup k, hrep.clients k (hkeys k hk)]
    rfl
  · intro k hk k' hk' hne x hx hx'
    have hcases := hrep.mem_moveNodes hsrc (hkeys k hk) hmem hx
    have hcases' := hrep.mem_moveNodes hsrc (hkeys k' hk') hmem hx'
    rcases hcases with ⟨rfl, rfl⟩ | ⟨hxne, hxk⟩
    · rcases hcases' with ⟨-, rfl⟩ | ⟨hxne, -⟩
      · exact hne rfl
      · exact hxne rfl
    · rcases hcases' with ⟨rfl, -⟩ | ⟨-, hxk'⟩
      · exact hxne rfl
      · exact hrep.disjoint k (hkeys k hk) k' (hkeys k' hk') hne hxk hxk'

end Channels

/-- The channel `a` with three clients and the channel `b` with one. -/
def twoChannels : Dict Sds (List ClientId) := Dict.add "b" [17] (Dict.add "a" [11, 12, 13] ∅)

/-- The nodes of `twoLists`, by channel. -/
def channelNodes (k : Sds) : List ℕ :=
  if k = "a" then [1, 2, 3] else if k = "b" then [7] else []

/-- `twoLists` with the channels as the addresses of the headers. -/
def channelHeap : Heap Sds ℕ where
  node := twoLists.node
  list k := twoLists.list (k == "b")

lemma represents_twoChannels :
    Represents (· + 10) id channelHeap channelNodes twoChannels where
  wellFormed k hk := by
    have hkeys : k ∈ twoChannels.keys := hk
    rcases List.mem_cons.mp hkeys with rfl | hkeys
    · exact ⟨⟨rfl, rfl, trivial⟩, rfl, rfl, rfl⟩
    · obtain rfl := List.mem_singleton.mp hkeys
      exact ⟨⟨rfl, rfl, rfl, rfl, rfl, rfl, trivial⟩, rfl, rfl, rfl⟩
  clients := by decide
  header_injective := Function.injective_id
  disjoint := by
    have hnodes : ∀ k ∈ twoChannels, ∀ k' ∈ twoChannels, k ≠ k' →
        ∀ x ∈ channelNodes k, x ∉ channelNodes k' := by decide
    exact fun k hk k' hk' hne x hx hx' => hnodes k hk k' hk' hne x hx hx'

theorem moveNode_channels_twoChannels :
    ∃ h', smemlistMoveNode channelHeap "a" "b" 2 = some h' ∧
      Represents (· + 10) id h' (moveNodes channelNodes "a" 2 "b")
        (Broker.smemlistMoveNode twoChannels "a" 1 "b") :=
  moveNode_channels represents_twoChannels (by decide) (by decide) rfl

end SelfTestCode.Broker.Adlist
