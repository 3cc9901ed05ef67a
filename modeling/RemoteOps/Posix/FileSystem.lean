import Mathlib.Data.List.Infix
import Mathlib.Tactic.Common

/-!
# File systems with symbolic links

A place is the list of the names that lead to it from the root, without links. A file
system says what stands at each place; its parents are directories. `resolve` is the
walk of the kernel along a path: it follows every link, and gives up when it has followed
too many. What a walk to a directory finds does not change while directories and links
stay as they are (`resolve_keeps`).
-/

namespace Posix

variable {ν β : Type}

/-! ## Definitions -/

/-- A component of a path: `.`, `..` or a name. -/
inductive Step (ν : Type) where
  | here
  | up
  | down (n : ν)

/-- A path. A slash at its end is a last `here`. -/
structure Route (ν : Type) where
  absolute : Bool
  steps : List (Step ν)

/-- The steps along names. -/
def downs (names : List ν) : List (Step ν) := names.map .down

theorem downs_append (xs ys : List ν) : downs (xs ++ ys) = downs xs ++ downs ys :=
  List.map_append

inductive Node (ν β : Type) where
  | dir
  | file (content : β)
  | link (target : Route ν)

inductive Errno where
  | noent
  | notdir
  | isdir
  | exist
  | loop
  | notempty
  | inval
  | busy
  deriving DecidableEq

/-- What stands at each place. There are finitely many places with something. -/
structure FileSystem (ν β : Type) where
  node : List ν → Option (Node ν β)
  places : List (List ν)
  root : node [] = some .dir
  parent : ∀ {l n}, node (l ++ [n]) ≠ none → node l = some .dir
  covered : ∀ {l}, node l ≠ none → l ∈ places

namespace FileSystem

/-- Something stands at the place, a link not followed. -/
def stands (fs : FileSystem ν β) (l : List ν) : Bool := (fs.node l).isSome

def isDir (fs : FileSystem ν β) (l : List ν) : Bool :=
  match fs.node l with
  | some .dir => true
  | _ => false

def isLink (fs : FileSystem ν β) (l : List ν) : Bool :=
  match fs.node l with
  | some (.link _) => true
  | _ => false

theorem isDir_iff {fs : FileSystem ν β} {l : List ν} :
    fs.isDir l = true ↔ fs.node l = some .dir := by
  unfold isDir
  split
  · next h => simp [h]
  · next h =>
      constructor
      · intro hfalse
        cases hfalse
      · intro heq
        exact absurd heq h

/-- A walk from a place, with what happens at a link left open. With `create` the last
name may be missing. -/
def walk (fs : FileSystem ν β) (create : Bool)
    (follow : List ν → List (Step ν) → Except Errno (List ν × ℕ)) (left : ℕ) :
    List ν → List (Step ν) → Except Errno (List ν × ℕ)
  | l, [] => .ok (l, left)
  | l, s :: rest =>
      if fs.isDir l then
        match s with
        | .here => walk fs create follow left l rest
        | .up => walk fs create follow left l.dropLast rest
        | .down n =>
            match fs.node (l ++ [n]) with
            | none => if create && rest.isEmpty then .ok (l ++ [n], left) else .error .noent
            | some (.link target) =>
                follow (if target.absolute then [] else l) (target.steps ++ rest)
            | some _ => walk fs create follow left (l ++ [n]) rest
      else .error .notdir

/-- The walk of the kernel, which follows at most so many links: where it ends, and how
many more links it could follow. -/
def resolve (fs : FileSystem ν β) (create : Bool) :
    ℕ → List ν → List (Step ν) → Except Errno (List ν × ℕ)
  | 0 => fs.walk create (fun _ _ => .error .loop) 0
  | k + 1 => fs.walk create (fs.resolve create k) (k + 1)

/-- The place of the entry that a path names, its last name not followed. -/
def place (fs : FileSystem ν β) (limit : ℕ) (names : List ν) : Except Errno (List ν) := do
  let (d, _) ← fs.resolve false limit [] (downs names.dropLast)
  if fs.isDir d then .ok (d ++ names.getLast?.toList) else .error .notdir

/-- Put a leaf or a new directory at a place in a directory. -/
def put [DecidableEq ν] (fs : FileSystem ν β) (l : List ν) (x : Node ν β) : FileSystem ν β :=
  if h : fs.isDir l.dropLast = true ∧ fs.isDir l = false then
    { node := fun l' => if l' = l then some x else fs.node l'
      places := l :: fs.places
      root := by
        have hl : [] ≠ l := by
          rintro rfl
          simp [isDir, fs.root] at h
        rw [if_neg hl, fs.root]
      parent := by
        intro l' n hn
        have hne : l' ≠ l := by
          rintro rfl
          rw [if_neg (by simp)] at hn
          simp [isDir, fs.parent hn] at h
        rw [if_neg hne]
        split at hn
        · next heq =>
            have hd := h.1
            rwa [← heq, List.dropLast_concat, isDir_iff] at hd
        · exact fs.parent hn
      covered := by
        intro l' hn
        split at hn
        · next heq => exact heq ▸ List.mem_cons_self
        · exact List.mem_cons_of_mem _ (fs.covered hn) }
  else fs

/-- Only the root directory. -/
def empty : FileSystem ν β where
  node l := if l.isEmpty then some .dir else none
  places := [[]]
  root := rfl
  parent := by
    intro l n hn
    simp at hn
  covered := by
    intro l hn
    cases l with
    | nil => exact List.mem_singleton_self []
    | cons n l => exact absurd rfl hn

/-- What stands at a place once `s` has been moved to `t`. -/
def movedNode [DecidableEq ν] (fs : FileSystem ν β) (s t l : List ν) : Option (Node ν β) :=
  if t <+: l then fs.node (s ++ l.drop t.length)
  else if s <+: l then none
  else fs.node l

theorem movedNode_parent [DecidableEq ν] (fs : FileSystem ν β) {s t l : List ν} {n : ν}
    (h : fs.isDir t.dropLast = true ∧ s ≠ [] ∧ t ≠ [] ∧ ¬s <+: t)
    (hn : fs.movedNode s t (l ++ [n]) ≠ none) : fs.movedNode s t l = some .dir := by
  obtain ⟨hdir, -, -, hst⟩ := h
  unfold movedNode at hn ⊢
  by_cases htl : t <+: l
  · rw [if_pos (htl.trans (List.prefix_append l [n]))] at hn
    rw [if_pos htl]
    obtain ⟨m, rfl⟩ := htl
    rw [List.append_assoc, List.drop_left, ← List.append_assoc] at hn
    rw [List.drop_left]
    exact fs.parent hn
  · rw [if_neg htl]
    by_cases htn : t <+: l ++ [n]
    · -- the entry that has been moved stands in a directory that stayed
      obtain rfl | hshort := List.prefix_concat_iff.mp htn
      · rw [List.dropLast_concat] at hdir
        rw [if_neg fun hsl => hst (hsl.trans (List.prefix_append l [n])), ← isDir_iff]
        exact hdir
      · exact absurd hshort htl
    · rw [if_neg htn] at hn
      split at hn
      · exact absurd rfl hn
      · next hs =>
          rw [if_neg fun hsl => hs (hsl.trans (List.prefix_append l [n]))]
          exact fs.parent hn

theorem movedNode_covered [DecidableEq ν] (fs : FileSystem ν β) {s t l : List ν}
    (hn : fs.movedNode s t l ≠ none) :
    l ∈ fs.places ++ fs.places.map fun l => t ++ l.drop s.length := by
  unfold movedNode at hn
  rw [List.mem_append]
  split at hn
  · next htl =>
      obtain ⟨m, rfl⟩ := htl
      rw [List.drop_left] at hn
      right
      exact List.mem_map.mpr ⟨s ++ m, fs.covered hn, by rw [List.drop_left]⟩
  · split at hn
    · exact absurd rfl hn
    · exact Or.inl (fs.covered hn)

/-- Move what stands at `s`, with everything below it, to a place `t` in a directory. -/
def move [DecidableEq ν] (fs : FileSystem ν β) (s t : List ν) : FileSystem ν β :=
  if h : fs.isDir t.dropLast = true ∧ s ≠ [] ∧ t ≠ [] ∧ ¬s <+: t then
    { node := fs.movedNode s t
      places := fs.places ++ fs.places.map fun l => t ++ l.drop s.length
      root := by
        rw [movedNode, if_neg (by simpa using h.2.2.1), if_neg (by simpa using h.2.1), fs.root]
      parent := fun hn => fs.movedNode_parent h hn
      covered := fun hn => fs.movedNode_covered hn }
  else fs

/-- Nothing stands below the place. -/
def isEmpty [DecidableEq ν] (fs : FileSystem ν β) (l : List ν) : Bool :=
  fs.places.all fun l' => !(l <+: l' && l' ≠ l && fs.stands l')

/-! ## What stands where -/

theorem isDir_of_none {fs : FileSystem ν β} {l : List ν} (h : fs.node l = none) :
    fs.isDir l = false := by
  rw [isDir, h]

theorem isLink_of_none {fs : FileSystem ν β} {l : List ν} (h : fs.node l = none) :
    fs.isLink l = false := by
  rw [isLink, h]

theorem isLink_of_isDir {fs : FileSystem ν β} {l : List ν} (h : fs.isDir l = true) :
    fs.isLink l = false := by
  rw [isLink, isDir_iff.mp h]

theorem stands_of_isDir {fs : FileSystem ν β} {l : List ν} (h : fs.isDir l = true) :
    fs.stands l = true := by
  rw [stands, isDir_iff.mp h, Option.isSome_some]

theorem isDir_root (fs : FileSystem ν β) : fs.isDir [] = true := isDir_iff.mpr fs.root

theorem node_below {fs : FileSystem ν β} {l l' : List ν} (hl : fs.node l = none)
    (h : l <+: l') : fs.node l' = none := by
  obtain ⟨m, rfl⟩ := h
  induction m using List.reverseRecOn with
  | nil => rwa [List.append_nil]
  | append_singleton m n ih =>
      by_contra hne
      rw [← List.append_assoc] at hne
      rw [fs.parent hne] at ih
      cases ih

theorem isDir_parent (fs : FileSystem ν β) {l : List ν} (hl : fs.isDir l = false)
    (hstands : fs.stands l = true) : fs.isDir l.dropLast = true := by
  rcases List.eq_nil_or_concat l with rfl | ⟨d, n, rfl⟩
  · rw [fs.isDir_root] at hl
    cases hl
  · rw [List.concat_eq_append, List.dropLast_concat, isDir_iff]
    apply fs.parent (n := n)
    intro hnone
    rw [stands, List.concat_eq_append, hnone] at hstands
    cases hstands

theorem node_put [DecidableEq ν] {fs : FileSystem ν β} {l : List ν} (hd : fs.isDir l.dropLast = true)
    (hl : fs.isDir l = false) (x : Node ν β) (l' : List ν) :
    (fs.put l x).node l' = if l' = l then some x else fs.node l' := by
  rw [put, dif_pos ⟨hd, hl⟩]

/-! ## Walks -/

theorem resolve_eq_walk (fs : FileSystem ν β) (create : Bool) (k : ℕ) :
    ∃ follow, fs.resolve create k = fs.walk create follow k := by
  cases k with
  | zero => exact ⟨_, rfl⟩
  | succ k => exact ⟨_, rfl⟩

@[simp] theorem resolve_nil (fs : FileSystem ν β) (create : Bool) (k : ℕ) (l : List ν) :
    fs.resolve create k l [] = .ok (l, k) := by
  obtain ⟨follow, h⟩ := fs.resolve_eq_walk create k
  rw [h, walk]

theorem walk_append {fs : FileSystem ν β} {create : Bool} {left : ℕ} {ys : List (Step ν)}
    {follow follow' : List ν → List (Step ν) → Except Errno (List ν × ℕ)}
    {next : List ν × ℕ → Except Errno (List ν × ℕ)}
    (hys : (create && ys.isEmpty) = false)
    (hfollow : ∀ l xs, follow l (xs ++ ys) = follow' l xs >>= next)
    (hnext : ∀ l, next (l, left) = fs.walk create follow left l ys) (l : List ν)
    (xs : List (Step ν)) :
    fs.walk create follow left l (xs ++ ys) = fs.walk false follow' left l xs >>= next := by
  induction xs generalizing l with
  | nil => exact (hnext l).symm
  | cons s xs ih =>
      have hempty : (create && (xs ++ ys).isEmpty) = false := by
        cases xs with
        | nil => exact hys
        | cons x xs => simp
      cases s with
      | here =>
          simp only [List.cons_append, walk]
          split
          · exact ih l
          · rfl
      | up =>
          simp only [List.cons_append, walk]
          split
          · exact ih l.dropLast
          · rfl
      | down n =>
          simp only [List.cons_append, walk, hempty, Bool.false_and]
          split
          · split
            · rfl
            · rw [← List.append_assoc, hfollow]
            · exact ih (l ++ [n])
          · rfl

/-- A walk along `xs ++ ys` is one along `xs` and, from where it ends, one along `ys`. -/
theorem resolve_append (fs : FileSystem ν β) (create : Bool) (k : ℕ) (l : List ν)
    (xs : List (Step ν)) {ys : List (Step ν)} (hys : (create && ys.isEmpty) = false) :
    fs.resolve create k l (xs ++ ys) =
      fs.resolve false k l xs >>= fun found => fs.resolve create found.2 found.1 ys := by
  induction k generalizing l xs with
  | zero => exact walk_append hys (fun _ _ => rfl) (fun _ => rfl) l xs
  | succ k ih => exact walk_append hys (fun l xs => ih l xs) (fun _ => rfl) l xs

/-- One more name that is no link. -/
theorem resolve_down {fs : FileSystem ν β} {create : Bool} {k : ℕ} {l : List ν} {n : ν}
    (hl : fs.isDir l = true) (hlink : fs.isLink (l ++ [n]) = false) :
    fs.resolve create k l [.down n] =
      if create || fs.stands (l ++ [n]) then .ok (l ++ [n], k) else .error .noent := by
  obtain ⟨follow, h⟩ := fs.resolve_eq_walk create k
  rw [h, walk, if_pos hl]
  unfold isLink at hlink
  unfold stands
  split
  · next hnode => cases create <;> simp [hnode]
  · next hnode => simp [hnode] at hlink
  · next hnode => simp [hnode, walk]

theorem resolve_cons_of_not_dir {fs : FileSystem ν β} {create : Bool} {k : ℕ} {l : List ν}
    (hl : fs.isDir l = false) (s : Step ν) (rest : List (Step ν)) :
    fs.resolve create k l (s :: rest) = .error .notdir := by
  obtain ⟨follow, h⟩ := fs.resolve_eq_walk create k
  rw [h]
  cases s <;> simp [walk, hl]

/-- A place that a walk may end at: no link, and there unless it may be created. -/
def Found (fs : FileSystem ν β) (create : Bool) (l : List ν) : Prop :=
  fs.isLink l = false ∧ (fs.stands l = true ∨ create = true ∧ fs.isDir l.dropLast = true)

theorem found_of_isDir {fs : FileSystem ν β} {l : List ν} (h : fs.isDir l = true)
    (create : Bool) : fs.Found create l :=
  ⟨isLink_of_isDir h, Or.inl (stands_of_isDir h)⟩

theorem isDir_dropLast {fs : FileSystem ν β} {l : List ν} (h : fs.isDir l = true) :
    fs.isDir l.dropLast = true := by
  rcases List.eq_nil_or_concat l with rfl | ⟨m, n, rfl⟩
  · exact h
  · rw [List.concat_eq_append, List.dropLast_concat, isDir_iff]
    rw [isDir_iff] at h
    apply fs.parent (n := n)
    rw [← List.concat_eq_append, h]
    simp

theorem isDir_dropLast_of_stands {fs : FileSystem ν β} {l : List ν} (h : fs.stands l = true) :
    fs.isDir l.dropLast = true := by
  cases hl : fs.isDir l with
  | true => exact isDir_dropLast hl
  | false => exact fs.isDir_parent hl h

theorem walk_found {fs : FileSystem ν β} {create : Bool} {left : ℕ}
    {follow : List ν → List (Step ν) → Except Errno (List ν × ℕ)} {xs : List (Step ν)}
    {l d : List ν} {j : ℕ}
    (hfollow : ∀ l xs, fs.isDir l = true → follow l xs = .ok (d, j) → fs.Found create d)
    (hl : fs.Found create l) (h : fs.walk create follow left l xs = .ok (d, j)) :
    fs.Found create d := by
  induction xs generalizing l with
  | nil =>
      obtain ⟨rfl, -⟩ := Prod.mk.inj (Except.ok.inj h)
      exact hl
  | cons s xs ih =>
      cases s with
      | here =>
          rw [walk] at h
          split at h
          · exact ih hl h
          · cases h
      | up =>
          rw [walk] at h
          split at h
          · next hdir => exact ih (found_of_isDir (isDir_dropLast hdir) create) h
          · cases h
      | down n =>
          rw [walk] at h
          split at h
          · next hdir =>
              split at h
              · next hnone =>
                  split at h
                  · next hlast =>
                      obtain ⟨rfl, -⟩ := Prod.mk.inj (Except.ok.inj h)
                      rw [Bool.and_eq_true] at hlast
                      refine ⟨isLink_of_none hnone, Or.inr ⟨hlast.1, ?_⟩⟩
                      rw [List.dropLast_concat]
                      exact hdir
                  · cases h
              · refine hfollow _ _ ?_ h
                split
                · exact fs.isDir_root
                · exact hdir
              · next hother hnode =>
                  refine ih ⟨?_, Or.inl ?_⟩ h
                  · unfold isLink
                    split
                    · next hlink => exact absurd (hnode.symm.trans hlink) (by simpa using hother _)
                    · rfl
                  · simp [stands, hnode]
          · cases h

/-- A walk ends at no link, and at something unless it may create it. -/
theorem resolve_found {fs : FileSystem ν β} {create : Bool} {k : ℕ} {l d : List ν}
    {xs : List (Step ν)} {j : ℕ} (hl : fs.Found create l)
    (h : fs.resolve create k l xs = .ok (d, j)) : fs.Found create d := by
  induction k generalizing l xs with
  | zero => exact walk_found (fun _ _ _ hloop => by cases hloop) hl h
  | succ k ih => exact walk_found (fun l xs hdir hok => ih (found_of_isDir hdir create) hok) hl h

/-- The path of a place leads to it. -/
theorem resolve_downs {fs : FileSystem ν β} {l : List ν} (hl : fs.Found false l) (create : Bool)
    (k : ℕ) : fs.resolve create k [] (downs l) = .ok (l, k) := by
  induction l using List.reverseRecOn generalizing create with
  | nil => exact resolve_nil ..
  | append_singleton l n ih =>
      obtain ⟨hlink, hstands | ⟨hfalse, -⟩⟩ := hl
      · have hdir : fs.isDir l = true := by
          rw [isDir_iff]
          apply fs.parent (n := n)
          intro hnone
          simp [stands, hnone] at hstands
        rw [downs_append, resolve_append _ _ _ _ _ (by simp [downs]),
          ih (found_of_isDir hdir false)]
        simp only [bind, Except.bind, downs, List.map_cons, List.map_nil]
        rw [resolve_down hdir hlink, hstands, Bool.or_true]
        rfl
      · cases hfalse

/-! ## Changes that keep walks -/

/-- Directories and links stay as they are. -/
structure Keeps (fs fs' : FileSystem ν β) : Prop where
  dir : ∀ l, fs.isDir l = true → fs'.isDir l = true
  link : ∀ l target, fs.node l = some (.link target) → fs'.node l = some (.link target)

theorem walk_keeps {fs fs' : FileSystem ν β} (hkeeps : fs.Keeps fs') {left : ℕ}
    {follow follow' : List ν → List (Step ν) → Except Errno (List ν × ℕ)}
    {xs : List (Step ν)} {l d : List ν} {j : ℕ} (hd : fs.isDir d = true)
    (hfollow : ∀ l xs, follow l xs = .ok (d, j) → follow' l xs = .ok (d, j))
    (h : fs.walk false follow left l xs = .ok (d, j)) :
    fs'.walk false follow' left l xs = .ok (d, j) := by
  induction xs generalizing l with
  | nil => exact h
  | cons s xs ih =>
      cases s with
      | here =>
          rw [walk] at h ⊢
          split at h
          · next hdir => exact (if_pos (hkeeps.dir l hdir)).trans (ih h)
          · cases h
      | up =>
          rw [walk] at h ⊢
          split at h
          · next hdir => exact (if_pos (hkeeps.dir l hdir)).trans (ih h)
          · cases h
      | down n =>
          rw [walk] at h ⊢
          split at h
          · next hdir =>
              rw [if_pos (hkeeps.dir l hdir)]
              split at h
              · cases h
              · next target hnode =>
                  rw [hkeeps.link _ _ hnode]
                  exact hfollow _ _ h
              · next hother hnode =>
                  -- a file on the way is no directory, so the walk cannot go on from it
                  have hdir' : fs.isDir (l ++ [n]) = true := by
                    cases xs with
                    | nil =>
                        obtain ⟨rfl, -⟩ := Prod.mk.inj (Except.ok.inj h)
                        exact hd
                    | cons x xs =>
                        by_contra hnot
                        rw [Bool.not_eq_true] at hnot
                        cases x <;> simp [walk, hnot] at h
                  rw [isDir_iff.mp (hkeeps.dir _ hdir')]
                  exact ih h
          · cases h

/-- What a walk to a directory finds, it finds again. -/
theorem resolve_keeps {fs fs' : FileSystem ν β} (hkeeps : fs.Keeps fs') {k : ℕ} {l d : List ν}
    {xs : List (Step ν)} {j : ℕ} (hd : fs.isDir d = true)
    (h : fs.resolve false k l xs = .ok (d, j)) : fs'.resolve false k l xs = .ok (d, j) := by
  induction k generalizing l xs with
  | zero => exact walk_keeps hkeeps hd (fun _ _ hloop => by cases hloop) h
  | succ k ih => exact walk_keeps hkeeps hd (fun l xs hok => ih hok) h

theorem Keeps.refl (fs : FileSystem ν β) : fs.Keeps fs := ⟨fun _ h => h, fun _ _ h => h⟩

theorem Keeps.trans {fs fs' fs'' : FileSystem ν β} (h : fs.Keeps fs') (h' : fs'.Keeps fs'') :
    fs.Keeps fs'' :=
  ⟨fun l hl => h'.dir l (h.dir l hl), fun l t hl => h'.link l t (h.link l t hl)⟩

theorem keeps_put [DecidableEq ν] {fs : FileSystem ν β} {l : List ν} (hlink : fs.isLink l = false)
    (x : Node ν β) : fs.Keeps (fs.put l x) := by
  by_cases h : fs.isDir l.dropLast = true ∧ fs.isDir l = false
  · constructor
    · intro l' hl'
      have hne : l' ≠ l := by
        rintro rfl
        rw [hl'] at h
        cases h.2
      rw [isDir_iff, node_put h.1 h.2, if_neg hne]
      exact isDir_iff.mp hl'
    · intro l' target hl'
      have hne : l' ≠ l := by
        rintro rfl
        simp [isLink, hl'] at hlink
      rw [node_put h.1 h.2, if_neg hne]
      exact hl'
  · rw [put, dif_neg h]
    exact Keeps.refl fs

/-! ## New directories -/

/-- The places on the way down from `l` along names. -/
def placesBelow (l : List ν) : List ν → List (List ν)
  | [] => []
  | n :: names => (l ++ [n]) :: placesBelow (l ++ [n]) names

theorem mem_placesBelow {l l' : List ν} {names : List ν} :
    l' ∈ placesBelow l names ↔ ∃ s, s ≠ [] ∧ s <+: names ∧ l' = l ++ s := by
  induction names generalizing l with
  | nil => simp [placesBelow]
  | cons n names ih =>
      rw [placesBelow, List.mem_cons, ih]
      constructor
      · rintro (rfl | ⟨s, -, hs, rfl⟩)
        · exact ⟨[n], by simp, by simp, rfl⟩
        · exact ⟨n :: s, by simp, List.cons_prefix_cons.mpr ⟨rfl, hs⟩, by simp⟩
      · rintro ⟨s, hne, hs, rfl⟩
        cases s with
        | nil => exact absurd rfl hne
        | cons m s =>
            obtain ⟨rfl, htail⟩ := List.cons_prefix_cons.mp hs
            cases s with
            | nil => exact Or.inl rfl
            | cons k s => exact Or.inr ⟨k :: s, by simp, htail, by simp⟩

theorem placesBelow_concat (l names : List ν) (n : ν) :
    placesBelow l (names ++ [n]) = placesBelow l names ++ [l ++ names ++ [n]] := by
  induction names generalizing l with
  | nil => simp [placesBelow]
  | cons m names ih => simp [placesBelow, ih]

/-- New directories below `l`, one in another. -/
def addDirs [DecidableEq ν] (fs : FileSystem ν β) (l : List ν) : List ν → FileSystem ν β
  | [] => fs
  | n :: names => (fs.put (l ++ [n]) .dir).addDirs (l ++ [n]) names

/-- The first of the names is free in the directory `l`. -/
def Free (fs : FileSystem ν β) (l names : List ν) : Prop :=
  fs.isDir l = true ∧ ∀ n ∈ names.head?, fs.node (l ++ [n]) = none

theorem Free.of_concat {fs : FileSystem ν β} {l names : List ν} {n : ν}
    (h : fs.Free l (names ++ [n])) : fs.Free l names := by
  refine ⟨h.1, fun m hm => h.2 m ?_⟩
  rw [List.head?_append, Option.mem_def.mp hm]
  rfl

/-- A walk stops at the first name when that is free. -/
theorem Free.resolve {fs : FileSystem ν β} {l names : List ν} {n : ν}
    (h : fs.Free l (n :: names)) (k : ℕ) :
    fs.resolve false k l (downs (n :: names)) = .error .noent := by
  obtain ⟨follow, hwalk⟩ := fs.resolve_eq_walk false k
  rw [hwalk, downs, List.map_cons, walk, if_pos h.1, h.2 n rfl]
  rfl

section AddDirs

variable [DecidableEq ν] {fs : FileSystem ν β} {l names : List ν}

theorem addDirs_concat (fs : FileSystem ν β) (l names : List ν) (n : ν) :
    fs.addDirs l (names ++ [n]) = (fs.addDirs l names).put (l ++ names ++ [n]) .dir := by
  induction names generalizing fs l with
  | nil => simp [addDirs]
  | cons m names ih => simp [addDirs, ih]

theorem node_addDirs (h : fs.Free l names) (l' : List ν) :
    (fs.addDirs l names).node l' =
      if l' ∈ placesBelow l names then some .dir else fs.node l' := by
  induction names generalizing fs l with
  | nil => simp [addDirs, placesBelow]
  | cons n names ih =>
      have hnone : fs.node (l ++ [n]) = none := h.2 n (by simp)
      have hput : ∀ l', (fs.put (l ++ [n]) .dir).node l' =
          if l' = l ++ [n] then some .dir else fs.node l' :=
        node_put (by rw [List.dropLast_concat]; exact h.1) (isDir_of_none hnone) _
      have hfree : (fs.put (l ++ [n]) .dir).Free (l ++ [n]) names := by
        refine ⟨by rw [isDir_iff, hput, if_pos rfl], fun m _ => ?_⟩
        rw [hput, if_neg (by simp)]
        exact node_below hnone (List.prefix_append _ _)
      rw [addDirs, ih hfree, placesBelow, hput]
      by_cases heq : l' = l ++ [n]
      · simp [heq]
      · simp [heq]

theorem isDir_addDirs (h : fs.Free l names) : (fs.addDirs l names).isDir (l ++ names) = true := by
  rw [isDir_iff, node_addDirs h]
  cases names with
  | nil => simpa [placesBelow, isDir_iff] using h.1
  | cons n names =>
      exact if_pos (mem_placesBelow.mpr ⟨n :: names, by simp, List.prefix_rfl, rfl⟩)

/-- A new directory is empty. -/
theorem node_below_addDirs (h : fs.Free l names) (hne : names ≠ []) (n : ν) :
    (fs.addDirs l names).node (l ++ names ++ [n]) = none := by
  rw [node_addDirs h, if_neg]
  · cases names with
    | nil => exact absurd rfl hne
    | cons m names =>
        apply node_below (h.2 m rfl)
        exact ⟨names ++ [n], by simp⟩
  · rw [mem_placesBelow]
    rintro ⟨s, -, hs, heq⟩
    rw [List.append_assoc, List.append_cancel_left_eq] at heq
    have hlen := hs.length_le
    rw [← heq, List.length_append, List.length_singleton] at hlen
    omega

/-- The last name is free in the directory made before it. -/
theorem Free.node_concat {n : ν} (h : fs.Free l (names ++ [n])) :
    (fs.addDirs l names).node (l ++ names ++ [n]) = none := by
  cases names with
  | nil => simpa [addDirs] using h.2 n (by simp)
  | cons m names => exact node_below_addDirs h.of_concat (by simp) n

/-- The new directories continue a path to the place below which they are. -/
theorem resolve_addDirs (h : fs.Free l names) {k j : ℕ} {l₀ : List ν} {xs : List (Step ν)}
    (hl : fs.resolve false k l₀ xs = .ok (l, j)) :
    (fs.addDirs l names).resolve false k l₀ (xs ++ downs names) = .ok (l ++ names, j) := by
  induction names using List.reverseRecOn with
  | nil => simpa [downs, addDirs] using hl
  | append_singleton names n ih =>
      have hfree : fs.Free l names := h.of_concat
      have hdir := isDir_addDirs hfree
      have hnone := h.node_concat
      have hlast : (fs.addDirs l names).isDir (l ++ names ++ [n]).dropLast = true := by
        rw [List.dropLast_concat]
        exact hdir
      have hput := node_put hlast (isDir_of_none hnone) .dir
      have hkeeps : (fs.addDirs l names).Keeps (fs.addDirs l (names ++ [n])) := by
        rw [addDirs_concat]
        exact keeps_put (isLink_of_none hnone) _
      have hnode : (fs.addDirs l (names ++ [n])).isDir (l ++ names ++ [n]) = true := by
        rw [isDir_iff, addDirs_concat, hput, if_pos rfl]
      rw [downs_append, ← List.append_assoc, resolve_append _ _ _ _ _ (by simp [downs]),
        resolve_keeps hkeeps hdir (ih hfree)]
      simp only [bind, Except.bind, downs, List.map_cons, List.map_nil]
      rw [resolve_down (hkeeps.dir _ hdir) (isLink_of_isDir hnode), stands_of_isDir hnode,
        List.append_assoc]
      rfl

end AddDirs

end FileSystem

end Posix
