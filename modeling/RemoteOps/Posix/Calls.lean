import RemoteOps.Posix.FileSystem

/-!
# System calls that change a file system

A program of calls is run against a file system, and what it does is recorded with what it
returns: the places of the files and directories that it creates, opens for writing, replaces
or removes. What was touched before a failure stays touched. `Act.Within A x fs` says that
`x`, run on `fs`, touches only places in `A`; a sequence is within `A` when its first part is
and what follows is, run on the file system that the first part leaves (`within_bind`).
-/

namespace Posix

variable {ν β ε ε' α γ : Type}

/-- What a program has done. -/
structure Outcome (ν β ε α : Type) where
  touched : List (List ν)
  fs : FileSystem ν β
  result : Except ε α

def Act (ν β ε α : Type) : Type := FileSystem ν β → Outcome ν β ε α

namespace Act

instance : Monad (Act ν β ε) where
  pure a fs := ⟨[], fs, .ok a⟩
  bind x f fs :=
    match (x fs).result with
    | .error e => ⟨(x fs).touched, (x fs).fs, .error e⟩
    | .ok a =>
        let y := f a (x fs).fs
        ⟨(x fs).touched ++ y.touched, y.fs, y.result⟩

/-- What is read off the file system, or a check that may fail. -/
def inspect (f : FileSystem ν β → Except ε α) : Act ν β ε α := fun fs => ⟨[], fs, f fs⟩

/-- The errors of a program in another type. -/
def mapError (f : ε → γ) (x : Act ν β ε α) : Act ν β γ α := fun fs =>
  ⟨(x fs).touched, (x fs).fs, (x fs).result.mapError f⟩

variable {A : List ν → Prop} {fs : FileSystem ν β}

theorem bind_of_ok {x : Act ν β ε α} {f : α → Act ν β ε γ} {touched : List (List ν)}
    {fs' : FileSystem ν β} {a : α} (h : x fs = ⟨touched, fs', .ok a⟩) :
    (x >>= f) fs = ⟨touched ++ (f a fs').touched, (f a fs').fs, (f a fs').result⟩ := by
  change (match (x fs).result with
    | .error e => _
    | .ok a => _) = _
  rw [h]

theorem bind_of_error {x : Act ν β ε α} {f : α → Act ν β ε γ} {touched : List (List ν)}
    {fs' : FileSystem ν β} {e : ε} (h : x fs = ⟨touched, fs', .error e⟩) :
    (x >>= f) fs = ⟨touched, fs', .error e⟩ := by
  change (match (x fs).result with
    | .error e => _
    | .ok a => _) = _
  rw [h]

theorem result_bind {x : Act ν β ε α} {f : α → Act ν β ε γ} {c : γ}
    (h : ((x >>= f) fs).result = .ok c) :
    ∃ a, (x fs).result = .ok a ∧ (f a (x fs).fs).result = .ok c := by
  change Outcome.result (match (x fs).result with
    | .error e => _
    | .ok a => _) = _ at h
  split at h
  · cases h
  · next a ha => exact ⟨a, ha, h⟩

theorem mapError_bind (g : ε → ε') (x : Act ν β ε α) (f : α → Act ν β ε γ) :
    (x >>= f).mapError g = x.mapError g >>= fun a => (f a).mapError g := by
  funext fs
  have hx : x fs = ⟨(x fs).touched, (x fs).fs, (x fs).result⟩ := rfl
  cases hres : (x fs).result with
  | error e =>
      rw [hres] at hx
      have hx' : x.mapError g fs = ⟨(x fs).touched, (x fs).fs, .error (g e)⟩ := by
        rw [mapError, hres]
        rfl
      rw [bind_of_error hx', mapError, bind_of_error hx]
      rfl
  | ok a =>
      rw [hres] at hx
      have hx' : x.mapError g fs = ⟨(x fs).touched, (x fs).fs, .ok a⟩ := by
        rw [mapError, hres]
        rfl
      rw [bind_of_ok hx', mapError, bind_of_ok hx]
      rfl

/-- A check after a program changes nothing. -/
theorem fs_bind_inspect {x : Act ν β ε α} (f : α → FileSystem ν β → Except ε γ) :
    ((x >>= fun a => inspect (f a)) fs).fs = (x fs).fs := by
  change Outcome.fs (match (x fs).result with
    | .error e => _
    | .ok a => _) = _
  split <;> rfl

theorem bind_pure_eq (x : Act ν β ε α) (f : α → γ) :
    (x >>= fun a => pure (f a)) fs = ⟨(x fs).touched, (x fs).fs, (x fs).result.map f⟩ := by
  have hx : x fs = ⟨(x fs).touched, (x fs).fs, (x fs).result⟩ := rfl
  cases hres : (x fs).result with
  | error e =>
      rw [hres] at hx
      rw [bind_of_error hx]
      rfl
  | ok a =>
      rw [hres] at hx
      rw [bind_of_ok hx]
      exact congrArg (fun touched => Outcome.mk touched (x fs).fs (.ok (f a))) (List.append_nil _)

/-- A check before a program that passes. -/
theorem inspect_bind_of_ok {g : FileSystem ν β → Except ε α} {f : α → Act ν β ε γ} {a : α}
    (h : g fs = .ok a) : (inspect g >>= f) fs = f a fs := by
  have hcheck : inspect g fs = ⟨[], fs, .ok a⟩ := by rw [inspect, h]
  rw [bind_of_ok hcheck]
  rfl

theorem inspect_bind_of_error {g : FileSystem ν β → Except ε α} {f : α → Act ν β ε γ} {e : ε}
    (h : g fs = .error e) : (inspect g >>= f) fs = ⟨[], fs, .error e⟩ := by
  have hcheck : inspect g fs = ⟨[], fs, .error e⟩ := by rw [inspect, h]
  exact bind_of_error hcheck

end Act

/-! ## The calls -/

theorem place_concat {fs : FileSystem ν β} {limit j : ℕ} {p d : List ν}
    (h : fs.resolve false limit [] (downs p) = .ok (d, j)) (n : ν) :
    fs.place limit (p ++ [n]) = if fs.isDir d then .ok (d ++ [n]) else .error .notdir := by
  rw [FileSystem.place, List.dropLast_concat, h, List.getLast?_concat]
  rfl

/-- The path to something has a place, in a directory, where something stands. -/
theorem place_of_resolve {fs : FileSystem ν β} {limit j : ℕ} {p e : List ν}
    (h : fs.resolve false limit [] (downs p) = .ok (e, j)) :
    ∃ l, fs.place limit p = .ok l ∧ fs.stands l = true := by
  rcases List.eq_nil_or_concat p with rfl | ⟨q, n, rfl⟩
  · refine ⟨[], ?_, FileSystem.stands_of_isDir fs.isDir_root⟩
    simp [FileSystem.place, downs, bind, Except.bind, fs.isDir_root]
  · rw [List.concat_eq_append] at h ⊢
    rw [downs_append, FileSystem.resolve_append _ _ _ _ _ (by simp [downs])] at h
    cases hq : fs.resolve false limit [] (downs q) with
    | error err =>
        rw [hq] at h
        cases h
    | ok found =>
        obtain ⟨d, i⟩ := found
        rw [hq] at h
        replace h : fs.resolve false i d [.down n] = .ok (e, j) := h
        have hdir : fs.isDir d = true := by
          by_contra hd
          rw [Bool.not_eq_true] at hd
          rw [FileSystem.resolve_cons_of_not_dir hd] at h
          cases h
        refine ⟨d ++ [n], by rw [place_concat hq, if_pos hdir], ?_⟩
        by_contra hstands
        have hnone : fs.node (d ++ [n]) = none := by
          simpa [FileSystem.stands] using hstands
        rw [FileSystem.resolve_down hdir (FileSystem.isLink_of_none hnone)] at h
        rw [Bool.not_eq_true] at hstands
        rw [hstands] at h
        cases h

/-- Where a file that is opened for writing, and created when it is missing, stands. -/
def FileSystem.landing (fs : FileSystem ν β) (limit : ℕ) (names : List ν) :
    Except Errno (List ν) := do
  let (l, _) ← fs.resolve true limit [] (downs names)
  if fs.isDir l then .error .isdir else .ok l

/-- Where a file named in a directory is written: at a link's end, or in the directory. -/
theorem landing_concat {fs : FileSystem ν β} {limit j : ℕ} {p d l : List ν} {n : ν}
    (h : fs.resolve false limit [] (downs p) = .ok (d, j))
    (hl : fs.landing limit (p ++ [n]) = .ok l) :
    fs.isDir l = false ∧ fs.Found true l ∧ fs.isDir (d ++ [n]) = false ∧
      (l = d ++ [n] ∨ fs.stands (d ++ [n]) = true) := by
  rw [FileSystem.landing, downs_append,
    FileSystem.resolve_append _ _ _ _ _ (by simp [downs]), h] at hl
  simp only [bind, Except.bind] at hl
  split at hl
  · cases hl
  · next found hfound =>
      obtain ⟨l', i⟩ := found
      dsimp only at hl hfound
      split at hl
      · cases hl
      · next hdir =>
          obtain rfl := Except.ok.inj hl
          rw [Bool.not_eq_true] at hdir
          have hd : fs.Found true d := by
            have hroot := FileSystem.found_of_isDir fs.isDir_root false
            obtain ⟨hlink, hstands | ⟨hfalse, -⟩⟩ := FileSystem.resolve_found hroot h
            · exact ⟨hlink, Or.inl hstands⟩
            · cases hfalse
          refine ⟨hdir, FileSystem.resolve_found hd hfound, ?_⟩
          obtain ⟨follow, hwalk⟩ := fs.resolve_eq_walk true j
          rw [hwalk, downs, List.map_cons, List.map_nil, FileSystem.walk] at hfound
          split at hfound
          · split at hfound
            · next hnone =>
                obtain ⟨rfl, -⟩ := Prod.mk.inj (Except.ok.inj hfound)
                exact ⟨hdir, Or.inl rfl⟩
            · next hlink =>
                exact ⟨by rw [FileSystem.isDir, hlink], Or.inr (by rw [FileSystem.stands, hlink]; rfl)⟩
            · obtain ⟨rfl, -⟩ := Prod.mk.inj (Except.ok.inj hfound)
              exact ⟨hdir, Or.inl rfl⟩
          · cases hfound

/-- A file that is opened for writing stands in a directory, and is no link or directory itself. -/
theorem landing_ok {fs : FileSystem ν β} {limit j : ℕ} {p d l : List ν} {n : ν}
    (h : fs.resolve false limit [] (downs p) = .ok (d, j))
    (hl : fs.landing limit (p ++ [n]) = .ok l) :
    fs.isDir l.dropLast = true ∧ fs.isDir l = false ∧ fs.isLink l = false := by
  obtain ⟨hdir, ⟨hlink, hroom⟩, -⟩ := landing_concat h hl
  refine ⟨?_, hdir, hlink⟩
  obtain hstands | ⟨-, hparent⟩ := hroom
  · exact fs.isDir_parent hdir hstands
  · exact hparent

/-- What is named in a directory is written itself unless it is a link. -/
theorem landing_eq_iff {fs : FileSystem ν β} {limit j : ℕ} {p d l : List ν} {n : ν}
    (h : fs.resolve false limit [] (downs p) = .ok (d, j)) (hd : fs.isDir d = true)
    (hl : fs.landing limit (p ++ [n]) = .ok l) : l = d ++ [n] ↔ fs.isLink (d ++ [n]) = false := by
  constructor
  · rintro rfl
    exact (landing_ok h hl).2.2
  · intro hlink
    rw [FileSystem.landing, downs_append,
      FileSystem.resolve_append _ _ _ _ _ (by simp [downs]), h] at hl
    simp only [bind, Except.bind, downs, List.map_cons, List.map_nil] at hl
    rw [FileSystem.resolve_down hd hlink, Bool.true_or, if_pos rfl] at hl
    dsimp only at hl
    split at hl
    · cases hl
    · exact (Except.ok.inj hl).symm

/-- What the file at a place holds. -/
def FileSystem.content (fs : FileSystem ν β) (l : List ν) : Option β :=
  match fs.node l with
  | some (.file b) => some b
  | _ => none

theorem FileSystem.isDir_of_content {fs : FileSystem ν β} {l : List ν} {b : β}
    (h : fs.content l = some b) : fs.isDir l = false := by
  rw [FileSystem.content] at h
  rw [FileSystem.isDir]
  cases hnode : fs.node l with
  | none => rfl
  | some x =>
      cases x with
      | dir =>
          rw [hnode] at h
          cases h
      | file c => rfl
      | link t => rfl

section Calls

variable [DecidableEq ν]

/-- `mkdir(2)`. -/
def mkdir (limit : ℕ) (names : List ν) : Act ν β Errno Unit := fun fs =>
  match fs.place limit names with
  | .error e => ⟨[], fs, .error e⟩
  | .ok l => if fs.stands l then ⟨[], fs, .error .exist⟩ else ⟨[l], fs.put l .dir, .ok ()⟩

/-- A directory that is there is as good as one that is made. -/
def mkdirOrFind (limit : ℕ) (names : List ν) : Act ν β Errno Unit := fun fs =>
  match (mkdir limit names fs).result with
  | .error .exist =>
      match fs.resolve false limit [] (downs names) with
      | .ok (l, _) => ⟨[], fs, if fs.isDir l then .ok () else .error .exist⟩
      | .error e => ⟨[], fs, .error e⟩
  | _ => mkdir limit names fs

/-- `mkdir -p` along names in reverse order: where the directory above is missing, it is
made first. -/
def makeDirs (limit : ℕ) : List ν → Act ν β Errno Unit
  | [] => mkdirOrFind limit []
  | n :: above => fun fs =>
      let names := (n :: above).reverse
      match (mkdir limit names fs).result with
      | .error .noent => (makeDirs limit above >>= fun _ => mkdirOrFind limit names) fs
      | _ => mkdirOrFind limit names fs

/-- Open a file for writing, following links, and write what the old content becomes. -/
def writeFile (limit : ℕ) (names : List ν) (f : Option β → β) : Act ν β Errno Unit := fun fs =>
  match fs.landing limit names with
  | .error e => ⟨[], fs, .error e⟩
  | .ok l => ⟨[l], fs.put l (.file (f (fs.content l))), .ok ()⟩

/-- Read a file, following links. -/
def readFile (limit : ℕ) (names : List ν) : Act ν β Errno β := Act.inspect fun fs => do
  let (l, _) ← fs.resolve false limit [] (downs names)
  match fs.content l with
  | some b => .ok b
  | none => .error .isdir

/-- Why what stands at `s` cannot be moved to `t`. -/
def FileSystem.moveError (fs : FileSystem ν β) (s t : List ν) : Option Errno :=
  if s = [] ∨ t = [] then some .busy
  else if !fs.stands s then some .noent
  else if s = t then none
  else if s <+: t then some .inval
  else if fs.isDir t then
    if fs.isDir s then if fs.isEmpty t then none else some .notempty else some .isdir
  else if fs.stands t && fs.isDir s then some .notdir
  else none

/-- `rename(2)`, which follows neither name. -/
def rename (limit : ℕ) (source destination : List ν) : Act ν β Errno Unit := fun fs =>
  match fs.place limit source, fs.place limit destination with
  | .ok s, .ok t =>
      match fs.moveError s t with
      | some e => ⟨[], fs, .error e⟩
      | none => if s = t then ⟨[], fs, .ok ()⟩ else ⟨[s, t], fs.move s t, .ok ()⟩
  | .error e, _ => ⟨[], fs, .error e⟩
  | .ok _, .error e => ⟨[], fs, .error e⟩

/-! ## What making directories does -/

variable {fs : FileSystem ν β} {limit j : ℕ} {p names e : List ν}

theorem mkdir_of_free {l : List ν} (h : fs.place limit p = .ok l) (hl : fs.node l = none) :
    mkdir limit p fs = ⟨[l], fs.put l .dir, .ok ()⟩ := by
  have hstands : fs.stands l = false := by rw [FileSystem.stands, hl, Option.isSome_none]
  simp [mkdir, h, hstands]

theorem mkdirOrFind_of_free {l : List ν} (h : fs.place limit p = .ok l) (hl : fs.node l = none) :
    mkdirOrFind limit p fs = ⟨[l], fs.put l .dir, .ok ()⟩ := by
  rw [mkdirOrFind, mkdir_of_free h hl]

theorem mkdirOrFind_of_resolve (h : fs.resolve false limit [] (downs p) = .ok (e, j)) :
    (mkdir limit p fs).result = .error .exist ∧
      mkdirOrFind limit p fs = ⟨[], fs, if fs.isDir e then .ok () else .error .exist⟩ := by
  obtain ⟨l, hplace, hstands⟩ := place_of_resolve h
  have hmkdir : (mkdir limit p fs).result = .error .exist := by simp [mkdir, hplace, hstands]
  exact ⟨hmkdir, by rw [mkdirOrFind, hmkdir, h]⟩

/-- Nothing is done about a path that leads to something. -/
theorem makeDirs_of_resolve (h : fs.resolve false limit [] (downs p) = .ok (e, j)) :
    makeDirs limit p.reverse fs = ⟨[], fs, if fs.isDir e then .ok () else .error .exist⟩ := by
  obtain ⟨hexist, hfind⟩ := mkdirOrFind_of_resolve h
  rcases List.eq_nil_or_concat p with rfl | ⟨q, n, rfl⟩
  · exact hfind
  · rw [List.concat_eq_append] at hexist hfind ⊢
    rw [List.reverse_concat, makeDirs]
    simp only [List.reverse_cons, List.reverse_reverse]
    rw [hexist]
    exact hfind

/-- The directories that are missing below the directory that a path leads to are made. -/
theorem makeDirs_of_free (h : fs.resolve false limit [] (downs p) = .ok (e, j))
    (hfree : fs.Free e names) :
    makeDirs limit (p ++ names).reverse fs =
      ⟨FileSystem.placesBelow e names, fs.addDirs e names, .ok ()⟩ := by
  induction names using List.reverseRecOn with
  | nil =>
      rw [List.append_nil, makeDirs_of_resolve h, if_pos hfree.1]
      rfl
  | append_singleton names n ih =>
      have hfree' : fs.Free e names := hfree.of_concat
      have hmade := FileSystem.resolve_addDirs hfree' h
      rw [← downs_append] at hmade
      have hdir := FileSystem.isDir_addDirs hfree'
      have hplace : (fs.addDirs e names).place limit (p ++ names ++ [n]) =
          .ok (e ++ names ++ [n]) := by
        rw [place_concat hmade, if_pos hdir]
      have hnone := hfree.node_concat
      rw [← List.append_assoc, List.reverse_concat, makeDirs]
      simp only [List.reverse_cons, List.reverse_reverse]
      cases names with
      | nil =>
          rw [List.append_nil, FileSystem.addDirs, List.append_nil] at *
          rw [mkdir_of_free hplace hnone, mkdirOrFind_of_free hplace hnone]
          rfl
      | cons m names =>
          have hmissing : (mkdir limit (p ++ m :: names ++ [n]) fs).result = .error .noent := by
            have hresolve : fs.resolve false limit [] (downs (p ++ m :: names)) =
                .error .noent := by
              rw [downs_append, FileSystem.resolve_append _ _ _ _ _ (by simp [downs]), h]
              exact hfree'.resolve j
            rw [mkdir, FileSystem.place, List.dropLast_concat, hresolve]
            rfl
          rw [hmissing]
          dsimp only
          rw [Act.bind_of_ok (ih hfree'), mkdirOrFind_of_free hplace hnone,
            FileSystem.addDirs_concat, FileSystem.placesBelow_concat]

/-- A path leads to a directory, and what it names below that is free. -/
def FileSystem.Leads (fs : FileSystem ν β) (limit : ℕ) (names e : List ν) (j : ℕ)
    (new : List ν) : Prop :=
  ∃ p, names = p ++ new ∧ fs.resolve false limit [] (downs p) = .ok (e, j) ∧ fs.Free e new

theorem FileSystem.Leads.makeDirs {new : List ν} (h : fs.Leads limit names e j new) :
    Posix.makeDirs limit names.reverse fs =
      ⟨FileSystem.placesBelow e new, fs.addDirs e new, .ok ()⟩ := by
  obtain ⟨p, rfl, hp, hfree⟩ := h
  exact makeDirs_of_free hp hfree

/-- The directories are there now. -/
theorem FileSystem.Leads.resolve {new : List ν} (h : fs.Leads limit names e j new) :
    (fs.addDirs e new).resolve false limit [] (downs names) = .ok (e ++ new, j) ∧
      (fs.addDirs e new).isDir (e ++ new) = true := by
  obtain ⟨p, rfl, hp, hfree⟩ := h
  rw [downs_append]
  exact ⟨FileSystem.resolve_addDirs hfree hp, FileSystem.isDir_addDirs hfree⟩

variable {A : List ν → Prop} {d : List ν} {n : ν}

theorem content_put {l : List ν} (hparent : fs.isDir l.dropLast = true) (hdir : fs.isDir l = false)
    (b : β) (l' : List ν) :
    (fs.put l (.file b)).content l' = if l' = l then some b else fs.content l' := by
  rw [FileSystem.content, FileSystem.node_put hparent hdir]
  split
  · next h =>
      split at h
      · next heq =>
          obtain rfl := Node.file.inj (Option.some.inj h)
          rw [if_pos heq]
      · next hne => rw [if_neg hne, FileSystem.content, h]
  · next h =>
      split at h
      · exact absurd rfl (h b)
      · next hne =>
          rw [if_neg hne, FileSystem.content]
          split
          · next hfile => exact absurd hfile (h _)
          · rfl

section Replace

variable (h : fs.resolve false limit [] (downs p) = .ok (d, j)) (hd : fs.isDir d = true) {tmp : ν}
  (hne : tmp ≠ n)

include h hd hne

/-- A file that has been written under another name of its directory is moved over the one it
replaces, unless that is a directory. -/
theorem rename_written {l : List ν} (hland : fs.landing limit (p ++ [tmp]) = .ok l) (b : β) :
    rename limit (p ++ [tmp]) (p ++ [n]) (fs.put l (.file b)) =
      if fs.isDir (d ++ [n]) then ⟨[], fs.put l (.file b), .error .isdir⟩
      else ⟨[d ++ [tmp], d ++ [n]], (fs.put l (.file b)).move (d ++ [tmp]) (d ++ [n]), .ok ()⟩ := by
  obtain ⟨-, -, htmpdir, hthere⟩ := landing_concat h hland
  obtain ⟨hparent, hdir, hlink⟩ := landing_ok h hland
  have hnode := FileSystem.node_put hparent hdir (.file b)
  have hstays : ∀ l', fs.isDir l' = false → (fs.put l (.file b)).isDir l' = false := by
    intro l' hl'
    rw [← Bool.not_eq_true, FileSystem.isDir_iff, hnode]
    split
    · simp
    · rwa [← FileSystem.isDir_iff, Bool.not_eq_true]
  have hkeeps : fs.Keeps (fs.put l (.file b)) := FileSystem.keeps_put hlink _
  have hplace : ∀ m, (fs.put l (.file b)).place limit (p ++ [m]) = .ok (d ++ [m]) := by
    intro m
    rw [place_concat (FileSystem.resolve_keeps hkeeps hd h), if_pos (hkeeps.dir d hd)]
  have hstands : (fs.put l (.file b)).stands (d ++ [tmp]) = true := by
    rw [FileSystem.stands, hnode]
    split
    · rfl
    · next hother => exact hthere.resolve_left (Ne.symm hother)
  have hbeside : ¬d ++ [tmp] <+: d ++ [n] := by
    intro hbegins
    have heq := hbegins.eq_of_length (by simp)
    rw [List.append_cancel_left_eq, List.cons.injEq] at heq
    exact hne heq.1
  have hdest : (fs.put l (.file b)).isDir (d ++ [n]) = fs.isDir (d ++ [n]) := by
    cases hcase : fs.isDir (d ++ [n]) with
    | true => exact hkeeps.dir _ hcase
    | false => exact hstays _ hcase
  have herror : (fs.put l (.file b)).moveError (d ++ [tmp]) (d ++ [n]) =
      if fs.isDir (d ++ [n]) then some .isdir else none := by
    simp [FileSystem.moveError, hstands, hbeside, hdest, hstays _ htmpdir, hne]
  rw [rename, hplace, hplace]
  dsimp only
  rw [herror]
  cases fs.isDir (d ++ [n]) with
  | true => rfl
  | false =>
      have hplaces : d ++ [tmp] ≠ d ++ [n] := by simpa using hne
      rw [if_neg Bool.false_ne_true, if_neg Bool.false_ne_true]
      exact if_neg hplaces

/-- What stands there then: the file, or the link that the other name was. -/
theorem content_replaced {l : List ν} (hland : fs.landing limit (p ++ [tmp]) = .ok l) (b : β) :
    ((fs.put l (.file b)).move (d ++ [tmp]) (d ++ [n])).content (d ++ [n]) =
      if fs.isLink (d ++ [tmp]) then none else some b := by
  obtain ⟨hparent, hdir, hlink⟩ := landing_ok h hland
  have hmoved : (fs.put l (.file b)).isDir (d ++ [n]).dropLast = true ∧ d ++ [tmp] ≠ [] ∧
      d ++ [n] ≠ [] ∧ ¬d ++ [tmp] <+: d ++ [n] := by
    refine ⟨?_, by simp, by simp, fun hbegins => ?_⟩
    · rw [List.dropLast_concat]
      exact (FileSystem.keeps_put hlink _).dir d hd
    · have heq := hbegins.eq_of_length (by simp)
      rw [List.append_cancel_left_eq, List.cons.injEq] at heq
      exact hne heq.1
  have hnode : ((fs.put l (.file b)).move (d ++ [tmp]) (d ++ [n])).content (d ++ [n]) =
      (fs.put l (.file b)).content (d ++ [tmp]) := by
    rw [FileSystem.move, dif_pos hmoved, FileSystem.content, FileSystem.content]
    dsimp only
    rw [FileSystem.movedNode, if_pos List.prefix_rfl, List.drop_length, List.append_nil]
  rw [hnode, content_put hparent hdir]
  have hhere := landing_eq_iff h hd hland
  cases hcase : fs.isLink (d ++ [tmp]) with
  | false => rw [if_pos (hhere.mpr hcase).symm, if_neg Bool.false_ne_true]
  | true =>
      rw [if_pos rfl, if_neg, FileSystem.content]
      · rw [FileSystem.isLink] at hcase
        split
        · next hfile =>
            rw [hfile] at hcase
            cases hcase
        · rfl
      · intro heq
        rw [hhere.mp heq.symm] at hcase
        cases hcase

end Replace

end Calls

end Posix
