import VarLint.Disk.Basic

/-!
# Places on a disk

A path names a node in many ways, through `.` and `..` and from the working directory. Its *place*
is what remains when they are resolved: the plain names that lead from the root to the node.

* `Disk.at?_of_find`: what is found at a path is the node at the place of the path.
* `Node.at?_put`, `Node.at?_remove`: **a file that is there after a change** has been put there, or
  was there before. Directories may come and go with it.
* `Disk.mem_stamps`: the stamps of a disk list the size and time of every file, by place.
-/

namespace VarLint

/-! ## Entries by name -/

theorem lookup_cons_ite {β : Type} (f name : Bytes) (child : β) (cs : List (Bytes × β)) :
    ((name, child) :: cs).lookup f = if f = name then some child else cs.lookup f := by
  by_cases h : f = name
  · subst h
    simp
  · simp [List.lookup_cons, beq_eq_false_iff_ne.2 h, h]

theorem lookup_without {β : Type} (e f : Bytes) (cs : List (Bytes × β)) :
    (cs.filter fun c => !(c.1 == e)).lookup f = if f = e then none else cs.lookup f := by
  induction cs with
  | nil => simp
  | cons c cs ih =>
    obtain ⟨name, child⟩ := c
    rw [List.filter_cons, lookup_cons_ite]
    split
    · rename_i hname
      have hne : name ≠ e := by simpa using hname
      rw [lookup_cons_ite, ih]
      split
      · rename_i hf
        rw [if_neg (hf ▸ hne)]
      · rfl
    · rename_i hname
      have heq : name = e := by simpa using hname
      rw [ih, heq]
      split <;> rfl

namespace Node

/-- The node that plain names lead to. -/
def at? : Node → List Bytes → Option Node
  | n, [] => some n
  | n, e :: es => (n.children.lookup e).bind fun child => child.at? es

@[simp] theorem at?_nil (n : Node) : n.at? [] = some n := rfl

theorem at?_cons (n : Node) (e : Bytes) (es : List Bytes) :
    n.at? (e :: es) = (n.children.lookup e).bind fun child => child.at? es := rfl

theorem at?_append (n : Node) (es fs : List Bytes) :
    n.at? (es ++ fs) = (n.at? es).bind fun m => m.at? fs := by
  induction es generalizing n with
  | nil => rfl
  | cons e es ih =>
    simp only [List.cons_append, at?_cons]
    cases n.children.lookup e with
    | none => rfl
    | some child => exact ih child

/-! ## Following a path -/

/-- The names `done`, the latest first, lead from `root` through the directories `above`, the
nearest first, to a node. None of them is a step to the same directory or to its parent. -/
inductive Trail (root : Node) : List Bytes → List Node → Node → Prop
  | start : Trail root [] [] root
  | down {done : List Bytes} {above : List Node} {n : Node} {e : Bytes} {child : Node} :
      Trail root done above n → e ≠ Path.here → e ≠ Path.parent →
      n.children.lookup e = some child → Trail root (e :: done) (n :: above) child

theorem Trail.at?_eq {root n : Node} {done : List Bytes} {above : List Node}
    (h : Trail root done above n) : root.at? done.reverse = some n := by
  induction h with
  | start => rfl
  | down _ _ _ hchild ih =>
    rw [List.reverse_cons, at?_append, ih]
    simp [at?_cons, hchild]

/-- **Following path elements** ends at the node that the resolved elements lead to. -/
theorem Trail.at?_of_follow {root m : Node} : ∀ {es : List Bytes} {done : List Bytes}
    {above : List Node} {n : Node}, Trail root done above n → n.follow above es = .ok m →
      root.at? (Path.resolve true done es) = some m
  | [], _, _, _, htrail, h => by
    cases h
    exact htrail.at?_eq
  | e :: es, done, above, n, htrail, h => by
    cases n with
    | file => cases h
    | unreadable => cases h
    | directory cs size modified =>
      unfold follow at h
      unfold Path.resolve
      by_cases hhere : e == Path.here
      · simp only [hhere, if_true] at h ⊢
        exact htrail.at?_of_follow h
      · by_cases hparent : e == Path.parent
        · simp only [hhere, hparent, if_true] at h ⊢
          -- the parent of the root is the root, as for the resolved elements
          cases htrail with
          | start => exact Trail.start.at?_of_follow h
          | down hup _ hne _ =>
            simp only [beq_iff_eq, hne, if_false]
            exact hup.at?_of_follow h
        · simp only [hhere, hparent] at h ⊢
          cases hchild : cs.lookup e with
          | none => simp [hchild] at h
          | some child =>
            simp only [hchild] at h
            exact (htrail.down (by simpa using hhere)
              (by simpa using hparent) hchild).at?_of_follow h

/-! ## Changes of a tree -/

theorem lookup_insertChild (e f : Bytes) (node : Node) (cs : List (Bytes × Node)) :
    (insertChild e node cs).lookup f = if f = e then some node else cs.lookup f := by
  induction cs with
  | nil => simp [insertChild, lookup_cons_ite]
  | cons c cs ih =>
    obtain ⟨name, child⟩ := c
    unfold insertChild
    split
    · rename_i hname
      rw [lookup_cons_ite, lookup_cons_ite, beq_iff_eq.1 hname]
      split <;> rfl
    · rename_i hname
      have hne : name ≠ e := by simpa using hname
      split
      · rw [lookup_cons_ite]
      · rw [lookup_cons_ite, lookup_cons_ite, ih]
        split
        · rename_i hf
          rw [if_neg (hf ▸ hne)]
        · rfl

@[simp] theorem children_withChildren (cs : List (Bytes × Node)) (n : Node) :
    (n.withChildren cs).children = cs := by
  cases n <;> rfl

@[simp] theorem isDirectory_withChildren (cs : List (Bytes × Node)) (n : Node) :
    (n.withChildren cs).isDirectory = true := by
  cases n <;> rfl

/-- A file below a directory is below one of its children. -/
theorem exists_child_of_at? {m n : Node} (hm : m.isDirectory = false) (hn : n.isDirectory = true)
    {place : List Bytes} (h : n.at? place = some m) :
    ∃ f rest, place = f :: rest ∧
      (n.children.lookup f).bind (fun child => child.at? rest) = some m := by
  cases place with
  | nil =>
    cases h
    cases hm.symm.trans hn
  | cons f rest => exact ⟨f, rest, rfl, h⟩

/-- A file below a directory with one child replaced is below that child, or was there before. -/
theorem at?_insertChild {m n n' child : Node} {e : Bytes} {place : List Bytes}
    (hm : m.isDirectory = false) (hn' : n'.isDirectory = true)
    (hcs : n'.children = insertChild e child n.children) (h : n'.at? place = some m) :
    (∃ rest, place = e :: rest ∧ child.at? rest = some m) ∨ n.at? place = some m := by
  obtain ⟨f, rest, rfl, hbelow⟩ := exists_child_of_at? hm hn' h
  rw [hcs, lookup_insertChild] at hbelow
  split at hbelow
  · rename_i hf
    exact .inl ⟨rest, by rw [hf], hbelow⟩
  · exact .inr hbelow

/-- **A file that is there after a put** is part of what was put, or was there before. -/
theorem at?_put {node m : Node} (hm : m.isDirectory = false) : ∀ {es : List Bytes} {n : Node}
    {place : List Bytes}, (put node es n).at? place = some m →
      (∃ rest, place = es ++ rest ∧ node.at? rest = some m) ∨ n.at? place = some m
  | [], _, place, h => .inl ⟨place, rfl, h⟩
  | e :: es, n, place, h => by
    obtain ⟨rest, rfl, hrest⟩ | hbefore := at?_insertChild hm (isDirectory_withChildren _ n)
      (children_withChildren _ n) h
    · obtain ⟨below, rfl, hbelow⟩ | hbefore := at?_put hm hrest
      · exact .inl ⟨below, rfl, hbelow⟩
      · right
        rw [at?_cons]
        cases hchild : n.children.lookup e with
        | none =>
          -- a directory that had to be made is empty
          rw [hchild] at hbefore
          obtain ⟨_, _, _, hnone⟩ := exists_child_of_at? hm rfl hbefore
          cases hnone
        | some child =>
          rw [hchild] at hbefore
          exact hbefore
    · exact .inr hbefore

/-- **A file that is there after a removal** was there before. -/
theorem at?_remove {m : Node} (hm : m.isDirectory = false) (es : List Bytes) (n : Node)
    {place : List Bytes} (h : (remove es n).at? place = some m) : n.at? place = some m := by
  fun_induction remove es n generalizing place with
  | case1 n => exact h
  | case2 e cs size modified =>
    obtain ⟨f, rest, rfl, hbelow⟩ := exists_child_of_at? hm rfl h
    rw [children, lookup_without] at hbelow
    split at hbelow
    · cases hbelow
    · exact hbelow
  | case3 e es cs size modified hes child hchild ih =>
    obtain ⟨rest, rfl, hrest⟩ | h := at?_insertChild hm rfl
      (show _ = insertChild e _ (directory cs size modified).children from rfl) h
    · rw [at?_cons, children, hchild]
      exact ih hrest
    · exact h
  | case4 => exact h
  | case5 => exact h

/-! ## Stamps -/

/-- The size and the time of modification of a file. -/
def stamp? : Node → Option (Nat × Int)
  | file content modified => some (content.length, modified)
  | unreadable modified size => some (size, modified)
  | directory .. => none

/-- The content of a file that can be read. -/
def content? : Node → Option Bytes
  | file content _ => some content
  | _ => none

theorem isDirectory_of_stamp? {n : Node} {s : Nat × Int} (h : n.stamp? = some s) :
    n.isDirectory = false := by
  cases n with
  | directory => cases h
  | _ => rfl

mutual

/-- The stamps of the files at a place and below it. -/
def stampsFrom (place : List Bytes) : Node → List (List Bytes × Nat × Int)
  | file content modified => [(place, content.length, modified)]
  | unreadable modified size => [(place, size, modified)]
  | directory cs .. => stampsAmong place cs

/-- The stamps of the files that the children of a directory are or hold. -/
def stampsAmong (place : List Bytes) : List (Bytes × Node) → List (List Bytes × Nat × Int)
  | [] => []
  | (name, child) :: rest => stampsFrom (place ++ [name]) child ++ stampsAmong place rest

end

theorem mem_stampsAmong {place : List Bytes} {e : Bytes} {child : Node}
    {w : List Bytes × Nat × Int} (h : w ∈ child.stampsFrom (place ++ [e])) :
    ∀ {cs : List (Bytes × Node)}, cs.lookup e = some child → w ∈ stampsAmong place cs
  | (name, other) :: cs, hchild => by
    rw [lookup_cons_ite] at hchild
    unfold stampsAmong
    split at hchild
    · rename_i hname
      cases hchild
      exact List.mem_append_left _ (hname ▸ h)
    · exact List.mem_append_right _ (mem_stampsAmong h hchild)

/-- Every file below a place is among the stamps from there. -/
theorem mem_stampsFrom {m : Node} {s : Nat × Int} (hs : m.stamp? = some s) :
    ∀ (place : List Bytes) {es : List Bytes} {n : Node}, n.at? es = some m →
      (place ++ es, s) ∈ n.stampsFrom place
  | place, [], _, h => by
    cases h
    rw [List.append_nil]
    cases m with
    | directory => cases hs
    | _ =>
      cases hs
      exact List.mem_singleton_self _
  | place, e :: es, n, h => by
    rw [at?_cons] at h
    obtain ⟨child, hchild, hm⟩ := Option.bind_eq_some_iff.1 h
    have hbelow := mem_stampsFrom hs (place ++ [e]) hm
    rw [List.append_assoc, List.singleton_append] at hbelow
    cases n with
    | directory cs size modified =>
      rw [stampsFrom]
      exact mem_stampsAmong hbelow hchild
    | file => cases hchild
    | unreadable => cases hchild

end Node

/-! ## Disks -/

namespace Disk

/-- The place of a path. -/
def placeOf (d : Disk) (path : Bytes) : List Bytes := Path.resolve true [] (d.elementsOf path)

/-- The stamps of all files, by place. -/
def stamps (d : Disk) : List (List Bytes × Nat × Int) := d.root.stampsFrom []

/-- What is found at a path is the node at its place. -/
theorem at?_of_find {d : Disk} {path : Bytes} {n : Node} (h : d.find path = .ok n) :
    d.root.at? (d.placeOf path) = some n := by
  unfold find at h
  split at h
  · cases h
  · split at h
    · rename_i m hm
      split at h
      · cases h
      · cases h
        exact Node.Trail.start.at?_of_follow hm
    · cases h

theorem mem_stamps {d : Disk} {place : List Bytes} {n : Node} {s : Nat × Int}
    (hn : d.root.at? place = some n) (hs : n.stamp? = some s) : (place, s) ∈ d.stamps :=
  Node.mem_stampsFrom hs [] hn

end Disk

end VarLint
