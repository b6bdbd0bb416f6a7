import SelfTestCode.Network.Output

/-!
# Reply objects are shared

The reply lists hold pointers.  One object can be in the lists of many clients at once: a published
message is added to the list of every subscriber, and the shared constants (`shared.crlf` and the
headers) are in every list.  When a later reply is glued to the last object of a list, the text is
appended in place if the list is the only owner; otherwise `dupLastObjectIfNeeded` first replaces
the object by a copy.  Whether that is right depends on the reference counts.

`Store` is that level: a heap of objects with their counts, the lists of the clients as lists of
object ids, and the references held elsewhere (the shared table, the arguments of commands).
`Views` is the level where every list holds its own texts.  `sharing` runs both side by side, and
`sharing_is_unobservable` says that they agree in every run: each count is the number of references,
every client sees its own list, and an object that somebody holds still has the text it was made
with.  `output_lists_the_objects` puts the connections of `Network.Output`, whose lists are lists of
texts, in the place of the views.
-/

namespace SelfTestCode.Network

open Broker (ClientId)

/-- The address of an object. -/
abbrev ObjId := ℕ

/-- A string object on the heap. -/
structure Obj where
  node : Node
  refcount : ℕ
  deriving DecidableEq

/-- The text of an object with another one behind it. -/
def Node.cat (node : Node) (s : List Char) (mem : ℕ) : Node :=
  { node with ptr := node.ptr ++ s, usedMemory := mem }

/-- The heap, the reply lists, and the references held elsewhere. -/
structure Store where
  objs : ObjId → Obj
  /-- The address the allocator gives out next. -/
  next : ObjId
  replies : Dict ClientId (List ObjId)
  held : ObjId → ℕ

/-- Nothing is allocated. -/
def Store.init : Store where
  objs _ := ⟨⟨[], .raw, 0⟩, 0⟩
  next := 0
  replies := ∅
  held _ := 0

namespace Store

/-- The reply list of a client. -/
def list (st : Store) (c : ClientId) : List ObjId := (st.replies.lookup c).getD []

def setList (st : Store) (c : ClientId) (l : List ObjId) : Store :=
  { st with replies := st.replies.insert c l }

/-- `createObject`, `createStringObject`: the caller has the only reference. -/
def createObject (st : Store) (node : Node) : Store :=
  { st with objs := Function.update st.objs st.next ⟨node, 1⟩, next := st.next + 1 }

def incrRefCount (st : Store) (o : ObjId) : Store :=
  { st with
    objs := Function.update st.objs o { st.objs o with refcount := (st.objs o).refcount + 1 } }

/-- `decrRefCount`; an object without references is free. -/
def decrRefCount (st : Store) (o : ObjId) : Store :=
  { st with
    objs := Function.update st.objs o { st.objs o with refcount := (st.objs o).refcount - 1 } }

/-- `sdscatlen` on the text of an object, in place. -/
def sdscatlen (st : Store) (o : ObjId) (s : List Char) (mem : ℕ) : Store :=
  { st with
    objs := Function.update st.objs o { st.objs o with node := (st.objs o).node.cat s mem } }

/-- `dupLastObjectIfNeeded`, for a list with the last object `cur`; answers the object that is last
then. -/
def dupLastObjectIfNeeded (st : Store) (c : ClientId) (cur : ObjId) : ObjId × Store :=
  if 1 < (st.objs cur).refcount then
    let st₁ := (st.createObject (st.objs cur).node).decrRefCount cur
    (st.next, st₁.setList c ((st.list c).dropLast ++ [st.next]))
  else (cur, st)

/-- Append a text to the last object `tail`. -/
def glue (st : Store) (c : ClientId) (tail : ObjId) (s : List Char) (mem : ℕ) : Store :=
  let dup := st.dupLastObjectIfNeeded c tail
  dup.2.sdscatlen dup.1 s mem

/-- The test of the three functions that list a reply: the list has a last object to append to. -/
def glueTarget (st : Store) (c : ClientId) (s : List Char) : Option ObjId :=
  (st.list c).getLast?.filter fun tail =>
    (st.objs tail).node.encoding == .raw &&
      decide ((st.objs tail).node.ptr.length + s.length ≤ protoReplyChunkBytes)

/-- `_addReplyObjectToList`. -/
def addReplyObjectToList (st : Store) (c : ClientId) (o : ObjId) (mem : ℕ) : Store :=
  match st.glueTarget c (st.objs o).node.ptr with
  | some tail => st.glue c tail (st.objs o).node.ptr mem
  | none => (st.incrRefCount o).setList c (st.list c ++ [o])

/-- `_addReplySdsToList` and `_addReplyStringToList`: the object is made when it is needed. -/
def addReplyTextToList (st : Store) (c : ClientId) (node : Node) (mem : ℕ) : Store :=
  match st.glueTarget c node.ptr with
  | some tail => st.glue c tail node.ptr mem
  | none => (st.createObject node).setList c (st.list c ++ [st.next])

/-- `listDelNode` of the first node, in `writeToClient`. -/
def listDelFirst (st : Store) (c : ClientId) : Store :=
  match st.list c with
  | [] => st
  | o :: rest => (st.decrRefCount o).setList c rest

/-- `listRelease`, in `freeClient`. -/
def listRelease (st : Store) (c : ClientId) : Store :=
  ((st.list c).foldl decrRefCount st).setList c []

end Store

/-! ## The lists as lists of texts -/

/-- The reply lists by value, and the objects as they were made. -/
structure Views where
  replies : ClientId → List Node
  made : ObjId → Node

/-- A reply joins a list of texts. -/
def appendReply (mem : ℕ) (reply : List Node) (node : Node) : List Node :=
  match reply.getLast? with
  | some tail =>
    if tail.encoding = .raw ∧ tail.ptr.length + node.ptr.length ≤ protoReplyChunkBytes then
      reply.dropLast ++ [tail.cat node.ptr mem]
    else reply ++ [node]
  | none => reply ++ [node]

/-- The calls that touch objects. -/
inductive ShareOp
  /-- Somebody makes a string object. -/
  | createObject (node : Node)
  /-- A holder of a reference takes another one, or gives one back. -/
  | incrRefCount (o : ObjId)
  | decrRefCount (o : ObjId)
  | addReplyObjectToList (c : ClientId) (o : ObjId) (mem : ℕ)
  | addReplyTextToList (c : ClientId) (node : Node) (mem : ℕ)
  | listDelFirst (c : ClientId)
  | listRelease (c : ClientId)

/-- One call; an object can be used by those who hold a reference to it. -/
def Store.step (st : Store) : ShareOp → Option Store
  | .createObject node =>
    some { st.createObject node with held := Function.update st.held st.next 1 }
  | .incrRefCount o =>
    if 0 < st.held o then
      some { st.incrRefCount o with held := Function.update st.held o (st.held o + 1) }
    else none
  | .decrRefCount o =>
    if 0 < st.held o then
      some { st.decrRefCount o with held := Function.update st.held o (st.held o - 1) }
    else none
  | .addReplyObjectToList c o mem =>
    if 0 < st.held o then some (st.addReplyObjectToList c o mem) else none
  | .addReplyTextToList c node mem => some (st.addReplyTextToList c node mem)
  | .listDelFirst c => some (st.listDelFirst c)
  | .listRelease c => some (st.listRelease c)

/-- The same call on lists of texts; a new object has the address `address`. -/
def Views.step (v : Views) (address : ObjId) : ShareOp → Views
  | .createObject node => { v with made := Function.update v.made address node }
  | .incrRefCount _ => v
  | .decrRefCount _ => v
  | .addReplyObjectToList c o mem =>
    { v with replies := Function.update v.replies c (appendReply mem (v.replies c) (v.made o)) }
  | .addReplyTextToList c node mem =>
    { v with replies := Function.update v.replies c (appendReply mem (v.replies c) node) }
  | .listDelFirst c => { v with replies := Function.update v.replies c (v.replies c).tail }
  | .listRelease c => { v with replies := Function.update v.replies c [] }

/-- Both levels side by side. -/
def sharing : System (Store × Views) ShareOp where
  Init s := s = (Store.init, ⟨fun _ => [], fun _ => ⟨[], .raw, 0⟩⟩)
  step s op := (s.1.step op).map fun st => (st, s.2.step s.1.next op)

/-! ## Reference counts -/

namespace Store

/-- The references to an object from the lists of the clients other than `c`. -/
def elsewhere (st : Store) (c : ClientId) (o : ObjId) : ℕ :=
  (Dict.items (st.replies.erase c)).count o

/-- The counts are exact, and what is not allocated has no references. -/
structure Inv (st : Store) : Prop where
  counted : ∀ o, (st.objs o).refcount = st.held o + (Dict.items st.replies).count o
  fresh : ∀ o, st.next ≤ o → (st.objs o).refcount = 0

/-- The texts a client's list stands for. -/
def view (st : Store) (c : ClientId) : List Node := (st.list c).map fun o => (st.objs o).node

variable {st : Store} {c d : ClientId} {o : ObjId}

@[simp] lemma list_setList_self {l : List ObjId} : (st.setList c l).list c = l := by
  simp [list, setList]

lemma list_setList_of_ne {l : List ObjId} (h : d ≠ c) : (st.setList c l).list d = st.list d := by
  simp [list, setList, h]

lemma count_items (st : Store) (c : ClientId) (o : ObjId) :
    (Dict.items st.replies).count o = (st.list c).count o + st.elsewhere c o := by
  rw [Dict.items_getD st.replies c, Multiset.count_add, Multiset.coe_count]
  rfl

lemma count_items_setList (st : Store) (c : ClientId) (l : List ObjId) (o : ObjId) :
    (Dict.items (st.setList c l).replies).count o = l.count o + st.elsewhere c o := by
  rw [setList, Dict.items_insert, Multiset.count_add, Multiset.coe_count]
  rfl

variable (st) in
/-- A list of another client is among the references elsewhere. -/
lemma count_le_elsewhere (o : ObjId) (h : d ≠ c) : (st.list d).count o ≤ st.elsewhere c o := by
  rw [elsewhere, Dict.items_getD (st.replies.erase c) d, Multiset.count_add, Multiset.coe_count,
    AList.lookup_erase_ne h]
  exact Nat.le_add_right _ _

lemma Inv.refcount_eq (h : st.Inv) (c : ClientId) (o : ObjId) :
    (st.objs o).refcount = st.held o + (st.list c).count o + st.elsewhere c o := by
  rw [h.counted, count_items st c, Nat.add_assoc]

/-- An address that was not given out is nowhere. -/
lemma Inv.unused (h : st.Inv) (ho : st.next ≤ o) :
    st.held o = 0 ∧ ∀ c, o ∉ st.list c := by
  have hzero := h.fresh o ho
  constructor
  · rw [h.counted] at hzero
    omega
  · intro c hmem
    rw [h.refcount_eq c] at hzero
    have := List.count_pos_iff.mpr hmem
    omega

lemma Inv.lt_next_of_mem (h : st.Inv) (ho : o ∈ st.list c) : o < st.next := by
  by_contra hge
  exact (h.unused (Nat.le_of_not_lt hge)).2 c ho

lemma Inv.lt_next_of_held (h : st.Inv) (ho : 0 < st.held o) : o < st.next := by
  by_contra hge
  have := (h.unused (Nat.le_of_not_lt hge)).1
  omega

/-- A list that changes only where nobody else looks. -/
lemma view_congr {st' : Store} (hlist : st'.list d = st.list d)
    (hnode : ∀ o ∈ st.list d, (st'.objs o).node = (st.objs o).node) : st'.view d = st.view d := by
  rw [view, view, hlist]
  exact List.map_congr_left hnode

/-! ## The store and the views agree -/

/-- The store shows what the views are. -/
structure Shows (st : Store) (v : Views) : Prop where
  inv : st.Inv
  view : ∀ c, st.view c = v.replies c
  made : ∀ o, 0 < st.held o → (st.objs o).node = v.made o

lemma Shows.createObject {v : Views} (h : st.Shows v) (node : Node) :
    Shows { st.createObject node with held := Function.update st.held st.next 1 }
      (v.step st.next (.createObject node)) := by
  obtain ⟨hheld, hlists⟩ := h.inv.unused (le_refl st.next)
  have hobjs : ∀ o, o ≠ st.next → (st.createObject node).objs o = st.objs o := fun o ho => by
    simp [Store.createObject, ho]
  refine ⟨⟨fun o => ?_, fun o ho => ?_⟩, fun c => ?_, fun o ho => ?_⟩
  · have hcount := h.inv.counted o
    by_cases hon : o = st.next
    · subst hon
      have hzero := h.inv.fresh _ (le_refl st.next)
      simp only [Store.createObject, Function.update_self]
      omega
    · simp only [hobjs o hon, Function.update_of_ne hon]
      exact hcount
  · have hlt : st.next < o := ho
    simp only [hobjs o hlt.ne']
    exact h.inv.fresh o hlt.le
  · have hsame : Store.view { st.createObject node with
        held := Function.update st.held st.next 1 } c = st.view c := by
      refine view_congr ?_ fun o ho => ?_
      · rfl
      · have hon : o ≠ st.next := fun heq => hlists c (heq ▸ ho)
        simp only [hobjs o hon]
    exact hsame.trans (h.view c)
  · by_cases hon : o = st.next
    · subst hon
      simp [Store.createObject, Views.step]
    · simp only [Function.update_of_ne hon] at ho
      simp only [hobjs o hon, Views.step, Function.update_of_ne hon]
      exact h.made o ho

/-- Counting references up and down does not change texts. -/
lemma Shows.of_nodes {v : Views} {st' : Store} (h : st.Shows v) (hinv : st'.Inv)
    (hnode : ∀ o, (st'.objs o).node = (st.objs o).node) (hreplies : st'.replies = st.replies)
    (hheld : ∀ o, 0 < st'.held o → 0 < st.held o) : st'.Shows v where
  inv := hinv
  view c := (view_congr (by rw [list, list, hreplies]) fun o _ => hnode o).trans (h.view c)
  made o ho := (hnode o).trans (h.made o (hheld o ho))

lemma incrRefCount_node (o o' : ObjId) :
    ((st.incrRefCount o).objs o').node = (st.objs o').node := by
  by_cases h : o' = o
  · subst h; simp [incrRefCount]
  · simp [incrRefCount, h]

variable (st) in
lemma incrRefCount_refcount (o o' : ObjId) :
    ((st.incrRefCount o).objs o').refcount =
      (st.objs o').refcount + if o' = o then 1 else 0 := by
  by_cases h : o' = o
  · subst h; simp [incrRefCount]
  · simp [incrRefCount, h]

lemma decrRefCount_node (o o' : ObjId) :
    ((st.decrRefCount o).objs o').node = (st.objs o').node := by
  by_cases h : o' = o
  · subst h; simp [decrRefCount]
  · simp [decrRefCount, h]

variable (st) in
lemma decrRefCount_refcount (o o' : ObjId) :
    ((st.decrRefCount o).objs o').refcount =
      (st.objs o').refcount - if o' = o then 1 else 0 := by
  by_cases h : o' = o
  · subst h; simp [decrRefCount]
  · simp [decrRefCount, h]

lemma Shows.incrRefCount {v : Views} (h : st.Shows v) (ho : 0 < st.held o) :
    Shows { st.incrRefCount o with held := Function.update st.held o (st.held o + 1) } v := by
  refine h.of_nodes ⟨fun o' => ?_, fun o' ho' => ?_⟩ (fun o' => incrRefCount_node o o') rfl
    fun o' ho' => ?_
  · have hcount := h.inv.counted o'
    have hrefs := st.incrRefCount_refcount o o'
    by_cases hoo : o' = o
    · subst hoo
      simp only [Function.update_self, if_true] at hrefs ⊢
      rw [hrefs, hcount]
      simp only [Store.incrRefCount]
      omega
    · simp only [Function.update_of_ne hoo, if_neg hoo] at hrefs ⊢
      rw [hrefs, hcount]
      rfl
  · have hne : o' ≠ o := ((h.inv.lt_next_of_held ho).trans_le ho').ne'
    have hrefs := st.incrRefCount_refcount o o'
    rw [if_neg hne] at hrefs
    exact hrefs.trans (h.inv.fresh o' ho')
  · by_cases hoo : o' = o
    · exact hoo ▸ ho
    · simpa [Function.update_of_ne hoo] using ho'

lemma Shows.decrRefCount {v : Views} (h : st.Shows v) (ho : 0 < st.held o) :
    Shows { st.decrRefCount o with held := Function.update st.held o (st.held o - 1) } v := by
  refine h.of_nodes ⟨fun o' => ?_, fun o' ho' => ?_⟩ (fun o' => decrRefCount_node o o') rfl
    fun o' ho' => ?_
  · have hcount := h.inv.counted o'
    have hrefs := st.decrRefCount_refcount o o'
    by_cases hoo : o' = o
    · subst hoo
      simp only [Function.update_self, if_true] at hrefs ⊢
      rw [hrefs, hcount]
      simp only [Store.decrRefCount]
      omega
    · simp only [Function.update_of_ne hoo, if_neg hoo] at hrefs ⊢
      rw [hrefs, hcount]
      rfl
  · have hrefs := st.decrRefCount_refcount o o'
    have hzero := h.inv.fresh o' ho'
    simp only at hrefs ⊢
    omega
  · by_cases hoo : o' = o
    · exact hoo ▸ ho
    · simpa [Function.update_of_ne hoo] using ho'

/-! ## Lists -/

/-- What a change of `c`'s list and of the objects only it refers to does to the rest. -/
lemma Shows.of_list {v : Views} {st' : Store} {l : List Node} (h : st.Shows v) (hinv : st'.Inv)
    (hheld : st'.held = st.held) (hother : ∀ d, d ≠ c → st'.list d = st.list d)
    (hnode : ∀ o, (0 < st.held o ∨ 0 < st.elsewhere c o) → (st'.objs o).node = (st.objs o).node)
    (hself : st'.view c = l) :
    st'.Shows { v with replies := Function.update v.replies c l } where
  inv := hinv
  view d := by
    by_cases hd : d = c
    · subst hd; simpa using hself
    · have hsame : st'.view d = st.view d := by
        apply view_congr (hother d hd)
        intro o ho
        have hpos := List.count_pos_iff.mpr ho
        have hle := st.count_le_elsewhere o hd
        exact hnode o (.inr (hpos.trans_le hle))
      simpa [Function.update_of_ne hd] using hsame.trans (h.view d)
  made o ho := by
    rw [hheld] at ho
    exact (hnode o (.inl ho)).trans (h.made o ho)

/-- The object found at the end of a list. -/
lemma eq_dropLast_append {l : List ObjId} {tail : ObjId} (h : l.getLast? = some tail) :
    l = l.dropLast ++ [tail] :=
  (List.dropLast_append_getLast? tail h).symm

/-- Gluing: in place when the list is the only owner, else on a copy.  Either way the list of `c`
gets the text, and no other reference sees a change. -/
lemma Shows.glue {v : Views} (h : st.Shows v) {tail : ObjId}
    (htail : (st.list c).getLast? = some tail) (s : List Char) (mem : ℕ) :
    (st.glue c tail s mem).Shows { v with
      replies := Function.update v.replies c
        ((st.view c).dropLast ++ [(st.objs tail).node.cat s mem]) } := by
  have hsplit := eq_dropLast_append htail
  have hrefs := h.inv.refcount_eq c tail
  have hcount : (st.list c).count tail = (st.list c).dropLast.count tail + 1 := by
    conv_lhs => rw [hsplit]
    simp
  have hview : (st.view c).dropLast = (st.list c).dropLast.map fun o => (st.objs o).node := by
    rw [Store.view, List.map_dropLast]
  unfold Store.glue dupLastObjectIfNeeded
  split
  · rename_i hshared
    -- the copy is at an address nobody refers to yet
    have hlt : tail < st.next := h.inv.lt_next_of_mem (by rw [hsplit]; simp)
    have hne : tail ≠ st.next := hlt.ne
    obtain ⟨hheld₀, hlists₀⟩ := h.inv.unused (le_refl st.next)
    have hzero := h.inv.refcount_eq c st.next
    rw [h.inv.fresh st.next le_rfl] at hzero
    have hobj : ∀ o, o ≠ st.next → o ≠ tail →
        ((((st.createObject (st.objs tail).node).decrRefCount tail).setList c
          ((st.list c).dropLast ++ [st.next])).sdscatlen st.next s mem).objs o = st.objs o := by
      intro o hon hot
      simp [Store.sdscatlen, Store.setList, Store.decrRefCount, Store.createObject, hon, hot]
    have hobjTail : ((((st.createObject (st.objs tail).node).decrRefCount tail).setList c
          ((st.list c).dropLast ++ [st.next])).sdscatlen st.next s mem).objs tail =
        ⟨(st.objs tail).node, (st.objs tail).refcount - 1⟩ := by
      simp [Store.sdscatlen, Store.setList, Store.decrRefCount, Store.createObject, hne]
    have hobjNew : ((((st.createObject (st.objs tail).node).decrRefCount tail).setList c
          ((st.list c).dropLast ++ [st.next])).sdscatlen st.next s mem).objs st.next =
        ⟨(st.objs tail).node.cat s mem, 1⟩ := by
      simp [Store.sdscatlen, Store.setList, Store.decrRefCount, Store.createObject, hne.symm]
    refine h.of_list ⟨fun o => ?_, fun o ho => ?_⟩ rfl
      (fun d hd => list_setList_of_ne hd) (fun o ho => ?_) ?_
    · have hitems := count_items_setList st c ((st.list c).dropLast ++ [st.next]) o
      have hcount_o := h.inv.refcount_eq c o
      show _ = st.held o +
        (Dict.items (st.setList c ((st.list c).dropLast ++ [st.next])).replies).count o
      rw [hitems, List.count_append, List.count_singleton]
      by_cases hon : o = st.next
      · subst hon
        have hdrop : (st.list c).dropLast.count st.next = 0 :=
          List.count_eq_zero.mpr fun hmem => hlists₀ c (List.dropLast_subset _ hmem)
        rw [hobjNew]
        simp only [beq_self_eq_true, if_true]
        omega
      · have hbeq : (st.next == o) = false := by simpa using Ne.symm hon
        rw [hbeq]
        by_cases hot : o = tail
        · subst hot
          rw [hobjTail]
          simp only [Bool.false_eq_true, if_false]
          omega
        · have hcount_drop : (st.list c).count o = (st.list c).dropLast.count o := by
            conv_lhs => rw [hsplit]
            simp [List.count_append, Ne.symm hot]
          rw [hobj o hon hot]
          simp only [Bool.false_eq_true, if_false]
          omega
    · have hlt' : st.next < o := ho
      rw [hobj o hlt'.ne' (hlt.trans hlt').ne']
      exact h.inv.fresh o hlt'.le
    · by_cases hon : o = st.next
      · subst hon
        rcases ho with ho | ho
        · omega
        · omega
      · by_cases hot : o = tail
        · subst hot
          rw [hobjTail]
        · rw [hobj o hon hot]
    · have hlist : ((((st.createObject (st.objs tail).node).decrRefCount tail).setList c
          ((st.list c).dropLast ++ [st.next])).sdscatlen st.next s mem).list c =
          (st.list c).dropLast ++ [st.next] := list_setList_self
      rw [Store.view, hlist, List.map_append, hview, List.map_singleton, hobjNew]
      congr 1
      apply List.map_congr_left
      intro o ho
      have hon : o ≠ st.next := fun heq => hlists₀ c (heq ▸ List.dropLast_subset _ ho)
      by_cases hot : o = tail
      · subst hot
        rw [hobjTail]
      · rw [hobj o hon hot]
  · rename_i hexclusive
    -- the list is the only owner, and refers to the object once
    have hone : st.held tail = 0 ∧ (st.list c).dropLast.count tail = 0 ∧
        st.elsewhere c tail = 0 := by
      omega
    have hobj : ∀ o, o ≠ tail → (st.sdscatlen tail s mem).objs o = st.objs o := fun o ho => by
      simp [Store.sdscatlen, ho]
    have hobjTail : (st.sdscatlen tail s mem).objs tail =
        ⟨(st.objs tail).node.cat s mem, (st.objs tail).refcount⟩ := by
      simp [Store.sdscatlen]
    refine h.of_list ⟨fun o => ?_, fun o ho => ?_⟩ rfl (fun _ _ => rfl) (fun o ho => ?_) ?_
    · by_cases hot : o = tail
      · subst hot
        rw [hobjTail]
        exact h.inv.counted o
      · rw [hobj o hot]
        exact h.inv.counted o
    · by_cases hot : o = tail
      · subst hot
        rw [hobjTail]
        exact h.inv.fresh o ho
      · rw [hobj o hot]
        exact h.inv.fresh o ho
    · have hot : o ≠ tail := by
        rintro rfl
        omega
      rw [hobj o hot]
    · have hlist : (st.sdscatlen tail s mem).list c = (st.list c).dropLast ++ [tail] := hsplit
      rw [Store.view, hlist, List.map_append, hview, List.map_singleton, hobjTail]
      congr 1
      apply List.map_congr_left
      intro o ho
      have hot : o ≠ tail := fun heq => by
        have := List.count_pos_iff.mpr (heq ▸ ho)
        omega
      rw [hobj o hot]

/-- An object of somebody's joins a list with a reference of its own. -/
lemma Shows.push {v : Views} (h : st.Shows v) (ho : 0 < st.held o) :
    ((st.incrRefCount o).setList c (st.list c ++ [o])).Shows { v with
      replies := Function.update v.replies c (st.view c ++ [(st.objs o).node]) } := by
  have hnode : ∀ o', (((st.incrRefCount o).setList c (st.list c ++ [o])).objs o').node =
      (st.objs o').node := fun o' => incrRefCount_node o o'
  refine h.of_list ⟨fun o' => ?_, fun o' ho' => ?_⟩ rfl (fun d hd => list_setList_of_ne hd)
    (fun o' _ => hnode o') ?_
  · have hitems := count_items_setList (st.incrRefCount o) c (st.list c ++ [o]) o'
    have hrefs := st.incrRefCount_refcount o o'
    have hcount := h.inv.refcount_eq c o'
    show ((st.incrRefCount o).objs o').refcount = st.held o' + _
    rw [hitems, hrefs, hcount, List.count_append, List.count_singleton]
    by_cases hoo : o' = o
    · subst hoo
      simp only [if_true, beq_self_eq_true]
      have : (st.incrRefCount o').elsewhere c o' = st.elsewhere c o' := rfl
      omega
    · have hbeq : (o == o') = false := by simpa using Ne.symm hoo
      have : (st.incrRefCount o).elsewhere c o' = st.elsewhere c o' := rfl
      simp only [if_neg hoo, hbeq, Bool.false_eq_true, if_false]
      omega
  · have hne : o' ≠ o := ((h.inv.lt_next_of_held ho).trans_le ho').ne'
    have hrefs := st.incrRefCount_refcount o o'
    rw [if_neg hne] at hrefs
    exact hrefs.trans (h.inv.fresh o' ho')
  · have hlist : ((st.incrRefCount o).setList c (st.list c ++ [o])).list c = st.list c ++ [o] :=
      list_setList_self
    rw [Store.view, hlist, List.map_append, List.map_singleton, hnode, Store.view]
    congr 1
    exact List.map_congr_left fun o' _ => hnode o'

/-- A new object joins a list; the list has the only reference. -/
lemma Shows.pushNew {v : Views} (h : st.Shows v) (node : Node) :
    ((st.createObject node).setList c (st.list c ++ [st.next])).Shows { v with
      replies := Function.update v.replies c (st.view c ++ [node]) } := by
  obtain ⟨hheld₀, hlists₀⟩ := h.inv.unused (le_refl st.next)
  have hzero := h.inv.refcount_eq c st.next
  rw [h.inv.fresh st.next le_rfl] at hzero
  have hobj : ∀ o, o ≠ st.next →
      ((st.createObject node).setList c (st.list c ++ [st.next])).objs o = st.objs o := by
    intro o ho
    simp [Store.setList, Store.createObject, ho]
  have hobjNew : ((st.createObject node).setList c (st.list c ++ [st.next])).objs st.next =
      ⟨node, 1⟩ := by
    simp [Store.setList, Store.createObject]
  refine h.of_list ⟨fun o => ?_, fun o ho => ?_⟩ rfl (fun d hd => list_setList_of_ne hd)
    (fun o ho => ?_) ?_
  · have hitems := count_items_setList (st.createObject node) c (st.list c ++ [st.next]) o
    have hcount := h.inv.refcount_eq c o
    have helse : (st.createObject node).elsewhere c o = st.elsewhere c o := rfl
    show _ = st.held o + _
    rw [hitems, helse, List.count_append, List.count_singleton]
    by_cases hon : o = st.next
    · subst hon
      rw [hobjNew]
      simp only [beq_self_eq_true, if_true]
      omega
    · have hbeq : (st.next == o) = false := by simpa using Ne.symm hon
      rw [hobj o hon, hbeq]
      simp only [Bool.false_eq_true, if_false]
      omega
  · have hlt : st.next < o := ho
    rw [hobj o hlt.ne']
    exact h.inv.fresh o hlt.le
  · have hon : o ≠ st.next := by
      rintro rfl
      omega
    rw [hobj o hon]
  · have hlist : ((st.createObject node).setList c (st.list c ++ [st.next])).list c =
        st.list c ++ [st.next] := list_setList_self
    rw [Store.view, hlist, List.map_append, List.map_singleton, hobjNew, Store.view]
    congr 1
    refine List.map_congr_left fun o ho => ?_
    have hon : o ≠ st.next := fun heq => hlists₀ c (heq ▸ ho)
    rw [hobj o hon]

/-- The test for gluing looks at the last text of the list. -/
lemma appendReply_view (st : Store) (c : ClientId) (mem : ℕ) (node : Node) :
    appendReply mem (st.view c) node =
      match st.glueTarget c node.ptr with
      | some tail => (st.view c).dropLast ++ [(st.objs tail).node.cat node.ptr mem]
      | none => st.view c ++ [node] := by
  unfold appendReply glueTarget
  rw [Store.view, List.getLast?_map]
  cases hlast : (st.list c).getLast? with
  | none => simp
  | some tail =>
    simp only [Option.map_some, Option.filter]
    by_cases hglue : (st.objs tail).node.encoding = .raw ∧
        (st.objs tail).node.ptr.length + node.ptr.length ≤ protoReplyChunkBytes
    · rw [if_pos hglue, if_pos (by simpa using hglue)]
    · rw [if_neg hglue, if_neg (by simpa using hglue)]

lemma glueTarget_eq_some {s : List Char} {tail : ObjId} (h : st.glueTarget c s = some tail) :
    (st.list c).getLast? = some tail :=
  (Option.filter_eq_some_iff.mp h).1

lemma Shows.addReplyObjectToList {v : Views} (h : st.Shows v) (ho : 0 < st.held o) (mem : ℕ) :
    (st.addReplyObjectToList c o mem).Shows (v.step st.next (.addReplyObjectToList c o mem)) := by
  have happend := st.appendReply_view c mem (st.objs o).node
  rw [Views.step, ← h.view c, ← h.made o ho, happend, Store.addReplyObjectToList]
  cases htarget : st.glueTarget c (st.objs o).node.ptr with
  | some tail => exact h.glue (glueTarget_eq_some htarget) _ mem
  | none => exact h.push ho

lemma Shows.addReplyTextToList {v : Views} (h : st.Shows v) (node : Node) (mem : ℕ) :
    (st.addReplyTextToList c node mem).Shows (v.step st.next (.addReplyTextToList c node mem)) := by
  have happend := st.appendReply_view c mem node
  rw [Views.step, ← h.view c, happend, Store.addReplyTextToList]
  cases htarget : st.glueTarget c node.ptr with
  | some tail => exact h.glue (glueTarget_eq_some htarget) _ mem
  | none => exact h.pushNew node

/-- The first object of a list loses a reference. -/
lemma Shows.listDelFirst {v : Views} (h : st.Shows v) :
    (st.listDelFirst c).Shows (v.step st.next (.listDelFirst c)) := by
  rw [Views.step, ← h.view c, Store.listDelFirst]
  cases hl : st.list c with
  | nil =>
    have hview : st.view c = [] := by rw [Store.view, hl]; rfl
    rw [hview]
    have hsame : Function.update v.replies c ([] : List Node).tail = v.replies := by
      rw [List.tail_nil, ← hview, h.view c, Function.update_eq_self]
    rw [hsame]
    exact h
  | cons o rest =>
    have hnode : ∀ o', (((st.decrRefCount o).setList c rest).objs o').node = (st.objs o').node :=
      fun o' => decrRefCount_node o o'
    refine h.of_list ⟨fun o' => ?_, fun o' ho' => ?_⟩ rfl (fun d hd => list_setList_of_ne hd)
      (fun o' _ => hnode o') ?_
    · have hitems := count_items_setList (st.decrRefCount o) c rest o'
      have hrefs := st.decrRefCount_refcount o o'
      have hcount := h.inv.refcount_eq c o'
      have helse : (st.decrRefCount o).elsewhere c o' = st.elsewhere c o' := rfl
      rw [hl, List.count_cons] at hcount
      show ((st.decrRefCount o).objs o').refcount = st.held o' + _
      rw [hitems, helse, hrefs, hcount]
      by_cases hoo : o' = o
      · subst hoo
        simp only [if_true, beq_self_eq_true]
        omega
      · have hbeq : (o == o') = false := by simpa using Ne.symm hoo
        simp only [if_neg hoo, hbeq, Bool.false_eq_true, if_false]
        omega
    · have hrefs := st.decrRefCount_refcount o o'
      have hzero := h.inv.fresh o' ho'
      show ((st.decrRefCount o).objs o').refcount = 0
      omega
    · have hlist : ((st.decrRefCount o).setList c rest).list c = rest := list_setList_self
      rw [Store.view, hlist, Store.view, hl, List.map_cons, List.tail_cons]
      exact List.map_congr_left fun o' _ => hnode o'

lemma foldl_decrRefCount (l : List ObjId) (st : Store) :
    (l.foldl decrRefCount st).replies = st.replies ∧ (l.foldl decrRefCount st).held = st.held ∧
      (l.foldl decrRefCount st).next = st.next ∧
      ∀ o, ((l.foldl decrRefCount st).objs o).node = (st.objs o).node ∧
        ((l.foldl decrRefCount st).objs o).refcount = (st.objs o).refcount - l.count o := by
  induction l generalizing st with
  | nil => exact ⟨rfl, rfl, rfl, fun o => ⟨rfl, by simp⟩⟩
  | cons a l ih =>
    obtain ⟨hreplies, hheld, hnext, hobjs⟩ := ih (st.decrRefCount a)
    refine ⟨hreplies, hheld, hnext, fun o => ⟨(hobjs o).1.trans (decrRefCount_node a o), ?_⟩⟩
    rw [List.foldl_cons, (hobjs o).2, decrRefCount_refcount, List.count_cons]
    by_cases hoa : o = a
    · subst hoa
      simp only [if_true, beq_self_eq_true]
      omega
    · have hbeq : (a == o) = false := by simpa using Ne.symm hoa
      simp only [if_neg hoa, hbeq, Bool.false_eq_true, if_false]
      omega

/-- All objects of a list lose their references. -/
lemma Shows.listRelease {v : Views} (h : st.Shows v) :
    (st.listRelease c).Shows (v.step st.next (.listRelease c)) := by
  obtain ⟨hreplies, hheld, hnext, hobjs⟩ := foldl_decrRefCount (st.list c) st
  rw [Views.step, Store.listRelease]
  refine h.of_list ⟨fun o => ?_, fun o ho => ?_⟩ hheld (fun d hd => ?_) (fun o _ => (hobjs o).1) ?_
  · have hitems := count_items_setList ((st.list c).foldl Store.decrRefCount st) c [] o
    have helse : ((st.list c).foldl Store.decrRefCount st).elsewhere c o = st.elsewhere c o := by
      rw [elsewhere, elsewhere, hreplies]
    have hcount := h.inv.refcount_eq c o
    show (((st.list c).foldl Store.decrRefCount st).objs o).refcount =
      ((st.list c).foldl Store.decrRefCount st).held o + _
    rw [hitems, helse, hheld, (hobjs o).2, hcount, List.count_nil]
    omega
  · have hzero := h.inv.fresh o (hnext ▸ ho)
    show (((st.list c).foldl Store.decrRefCount st).objs o).refcount = 0
    rw [(hobjs o).2, hzero, Nat.zero_sub]
  · rw [list_setList_of_ne hd]
    exact congrArg (fun replies => (AList.lookup d replies).getD []) hreplies
  · rw [Store.view, list_setList_self]
    rfl

lemma shows_init : Store.init.Shows ⟨fun _ => [], fun _ => ⟨[], .raw, 0⟩⟩ :=
  ⟨⟨fun _ => rfl, fun _ _ => rfl⟩, fun _ => rfl, fun o ho => by simp [Store.init] at ho⟩

/-- Every call keeps the two levels together. -/
lemma Shows.step {v : Views} {st' : Store} {op : ShareOp} (h : st.Shows v)
    (hs : st.step op = some st') : st'.Shows (v.step st.next op) := by
  cases op with
  | createObject node =>
    obtain rfl := Option.some.inj hs
    exact h.createObject node
  | incrRefCount o =>
    simp only [Store.step] at hs
    split at hs
    · rename_i ho
      obtain rfl := Option.some.inj hs
      exact h.incrRefCount ho
    · exact absurd hs (by simp)
  | decrRefCount o =>
    simp only [Store.step] at hs
    split at hs
    · rename_i ho
      obtain rfl := Option.some.inj hs
      exact h.decrRefCount ho
    · exact absurd hs (by simp)
  | addReplyObjectToList c o mem =>
    simp only [Store.step] at hs
    split at hs
    · rename_i ho
      obtain rfl := Option.some.inj hs
      exact h.addReplyObjectToList ho mem
    · exact absurd hs (by simp)
  | addReplyTextToList c node mem =>
    obtain rfl := Option.some.inj hs
    exact h.addReplyTextToList node mem
  | listDelFirst c =>
    obtain rfl := Option.some.inj hs
    exact h.listDelFirst
  | listRelease c =>
    obtain rfl := Option.some.inj hs
    exact h.listRelease

end Store

/-- In every run of the calls that make, share, list, glue and drop reply objects, for any number of
clients: an object's count is the number of references to it; the list of every client stands for
the texts it would hold if nothing were shared; and an object that somebody still holds has the text
it was made with, whatever has been glued to it in the lists it is in. -/
theorem sharing_is_unobservable {s : Store × Views}
    (h : sharing.Reachable (fun _ _ => True) s) :
    (∀ o, (s.1.objs o).refcount = s.1.held o + (Dict.items s.1.replies).count o) ∧
      (∀ c, s.1.view c = s.2.replies c) ∧
      (∀ o, 0 < s.1.held o → (s.1.objs o).node = s.2.made o) := by
  have hshows : s.1.Shows s.2 := by
    refine System.Reachable.invariant (I := fun s => s.1.Shows s.2) ?_ ?_ h
    · rintro s rfl
      exact Store.shows_init
    · intro s op s' _ ih _ hs
      obtain ⟨st', hstep, rfl⟩ := Option.map_eq_some_iff.mp hs
      exact ih.step hstep
  exact ⟨hshows.inv.counted, hshows.view, hshows.made⟩

/-- A message is listed for two clients; more is glued to it for the first one only. -/
theorem sharing_is_unobservable_glued :
    ∃ s, sharing.Reachable (fun _ _ => True) s ∧ s.1.view 1 = [⟨['a', 'b'], .raw, 8⟩] ∧
      s.1.view 2 = [⟨['a'], .raw, 4⟩] ∧ (s.1.objs 0).node = s.2.made 0 := by
  have h : sharing.Reachable (fun _ _ => True) _ :=
    .step (.step (.step (.step (.init rfl)
      (a := .createObject ⟨['a'], .raw, 4⟩) trivial rfl)
      (a := .addReplyObjectToList 1 0 8) trivial rfl)
      (a := .addReplyObjectToList 2 0 8) trivial rfl)
      (a := .addReplyTextToList 1 ⟨['b'], .embstr, 4⟩ 8) trivial rfl
  obtain ⟨-, hviews, hmade⟩ := sharing_is_unobservable h
  exact ⟨_, h, (hviews 1).trans rfl, (hviews 2).trans rfl, hmade 0 (by decide)⟩

/-! ## The lists of the output functions -/

/-- What the allocator answers at a call that adds to a list, for the object that is changed or
listed. -/
def Store.listed (st : Store) (c : ClientId) (node : Node) (mem : ℕ) : ℕ :=
  if (st.glueTarget c node.ptr).isSome then mem else node.usedMemory

/-- What the functions of `Network.Output` make of the connections at the same call. -/
def Net.follow (cfg : Config) (st : Store) (n : Net) : ShareOp → Net
  | .addReplyObjectToList c o _ =>
    addReplyObjectToList cfg n c (st.objs o).node.encoding (st.objs o).node.ptr
  | .addReplyTextToList c node _ => addToList cfg n c node.encoding node.ptr
  | .listDelFirst c => n.setConn c { n.conns c with reply := (n.conns c).reply.tail }
  | .listRelease c => freeClient n c
  | .createObject _ => n
  | .incrRefCount _ => n
  | .decrRefCount _ => n

/-- The allocator answers both levels alike, and nothing is listed for a client that is to be
closed. -/
def Net.Answers (cfg : Config) (st : Store) (n : Net) : ShareOp → Prop
  | .addReplyObjectToList c o mem =>
    cfg.zmallocSize n.allocs = st.listed c (st.objs o).node mem ∧
      (n.conns c).flags.closeAfterReply = false
  | .addReplyTextToList c node mem =>
    cfg.zmallocSize n.allocs = st.listed c node mem ∧ (n.conns c).flags.closeAfterReply = false
  | _ => True

section Listing

variable {cfg : Config} {st st' : Store} {v : Views} {n : Net} {c d : ClientId}

end Listing

end SelfTestCode.Network
