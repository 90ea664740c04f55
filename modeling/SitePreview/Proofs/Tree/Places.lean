import SitePreview.Keyed
import SitePreview.Tree.Workspace

/-! What is found in a tree after directories are made in it or a file is written: the files there
were, and the new one in its place. -/

namespace SitePreview

namespace Node

variable {root after : Node} {place place' : List Text} {name name' : Text}
  {es : List (Text × Node)} {bytes : List UInt8}

theorem lookup_setEntry (name name' : Text) (node : Node) (es : List (Text × Node)) :
    (setEntry name node es).lookup name' = if name' = name then some node else es.lookup name' := by
  induction es with
  | nil => rw [setEntry, Keyed.lookup_cons]
  | cons e es ih =>
    obtain ⟨n, m⟩ := e
    rw [setEntry]
    split
    · next h =>
      rw [Keyed.lookup_cons, Keyed.lookup_cons, h]
      split <;> rfl
    · next h =>
      rw [Keyed.lookup_cons, Keyed.lookup_cons, ih]
      split
      · next hn => rw [if_neg (hn ▸ h)]
      · rfl

@[simp] theorem bytes?_directory (es : List (Text × Node)) : (directory es).bytes? [] = none := rfl

@[simp] theorem bytes?_file_cons (bytes : List UInt8) (name : Text) (place : List Text) :
    (file bytes).bytes? (name :: place) = none := rfl

theorem bytes?_cons (name : Text) (place : List Text) (es : List (Text × Node)) :
    (directory es).bytes? (name :: place) = (es.lookup name).bind (bytes? place) := by
  rw [bytes?, get?]
  cases es.lookup name <;> rfl

theorem bytes?_empty (place : List Text) : empty.bytes? place = none := by
  cases place <;> rfl

theorem bytes?_getD_empty (name : Text) (place : List Text) (es : List (Text × Node)) :
    ((es.lookup name).getD empty).bytes? place = (es.lookup name).bind (bytes? place) := by
  cases es.lookup name with
  | none => exact bytes?_empty place
  | some node => rfl

/-- In a directory with one entry set. -/
theorem bytes?_setEntry (name : Text) (node : Node) (es : List (Text × Node)) (place : List Text) :
    (directory (setEntry name node es)).bytes? (name' :: place) =
      if name' = name then node.bytes? place else (directory es).bytes? (name' :: place) := by
  rw [bytes?_cons, lookup_setEntry]
  split
  · rfl
  · rw [bytes?_cons]

/-- No file changes when directories are made. -/
theorem bytes?_makeDirectories (h : root.makeDirectories place = .ok after) (place' : List Text) :
    after.bytes? place' = root.bytes? place' := by
  induction place, root using makeDirectories.induct generalizing after place' with
  | case1 es => cases h; rfl
  | case2 | case3 => cases h
  | case4 name place es hlong => simp [makeDirectories, hlong] at h
  | case5 name place es hlong ih =>
    rw [makeDirectories, if_neg hlong] at h
    obtain ⟨node, hnode, rfl⟩ := Except.map_eq_ok.mp h
    cases place' with
    | nil => rfl
    | cons name' place' =>
      rw [bytes?_setEntry]
      split
      · next hname => rw [ih hnode, bytes?_getD_empty, bytes?_cons, hname]
      · rfl

/-- A file or nothing has no files below it. -/
theorem bytes?_below_entry (h : ∀ entries, es.lookup name = some (directory entries) → False) :
    (directory es).bytes? (name :: name' :: place) = none := by
  rw [bytes?_cons]
  cases hentry : es.lookup name with
  | none => rfl
  | some node =>
    cases node with
    | file bytes => rfl
    | directory entries => exact (h entries hentry).elim

/-- A file that is written stands in its place, and no other file changes. -/
theorem bytes?_write (h : root.write bytes place = .ok after) (place' : List Text) :
    after.bytes? place' = if place' = place then some bytes else root.bytes? place' := by
  induction place, root using write.induct generalizing after place' with
  | case1 | case2 => cases h
  | case3 name es hlong => simp [write, hlong] at h
  | case4 name es hlong entries hentry => simp [write, hlong, hentry] at h
  | case5 name es hlong hentry =>
    have hset : directory (setEntry name (file bytes) es) = after := by
      rw [write, if_neg hlong] at h
      split at h
      · next entries heq => exact (hentry entries heq).elim
      · exact Except.ok.inj h
    rw [← hset]
    cases place' with
    | nil => rfl
    | cons name' place' =>
      simp only [bytes?_setEntry, List.cons.injEq]
      by_cases hname : name' = name
      · cases place' with
        | nil => simp [hname, bytes?, get?]
        | cons next place' => rw [hname, bytes?_below_entry hentry]; simp
      · simp [hname]
  | case6 name next place es hentry => simp [write, hentry] at h
  | case7 name next place es child hentry ih =>
    rw [write, hentry] at h
    obtain ⟨node, hnode, rfl⟩ := Except.map_eq_ok.mp h
    cases place' with
    | nil => rfl
    | cons name' place' =>
      simp only [bytes?_setEntry, List.cons.injEq]
      by_cases hname : name' = name
      · rw [if_pos hname, ih hnode, bytes?_cons, hname, hentry, Option.bind_some]
        simp
      · simp [hname]

end Node

namespace Workspace

variable {w after : Workspace} {root root' : Node} {here there : List Text} {path : Path}
  {bytes : List UInt8}

/-- The place that a segment leads to. -/
def stepTo (here : List Text) (step : Text) : List Text :=
  if step = ".." then here.dropLast else here ++ [step]

theorem enter_eq_ok {steps : List Text} (h : enter root here steps = .ok (there, root')) :
    there = steps.foldl stepTo here ∧ ∀ place, root'.bytes? place = root.bytes? place := by
  induction steps generalizing root here with
  | nil =>
    obtain ⟨rfl, rfl⟩ := Prod.mk.inj (Except.ok.inj h)
    exact ⟨rfl, fun _ => rfl⟩
  | cons step steps ih =>
    rw [enter] at h
    rw [List.foldl_cons, stepTo]
    split at h
    · next hup =>
      rw [if_pos hup]
      exact ih h
    · next hdown =>
      rw [if_neg hdown]
      cases hmade : root.makeDirectories (here ++ [step]) with
      | error e => simp [hmade] at h
      | ok made =>
        rw [hmade] at h
        obtain ⟨hthere, hbytes⟩ := ih h
        exact ⟨hthere, fun place => (hbytes place).trans (Node.bytes?_makeDirectories hmade place)⟩

theorem makeParents_eq_ok (h : w.makeParents path = .ok (here, after)) :
    ∃ root, enter w.root (w.start path.isAbsolute) path.directories = .ok (here, root) ∧
      after = { w with root := root } := by
  rw [makeParents] at h
  split at h
  · cases h
  · obtain ⟨⟨there, root⟩, hentered, heq⟩ := Except.map_eq_ok.mp h
    obtain ⟨rfl, rfl⟩ := Prod.mk.inj heq
    exact ⟨root, hentered, rfl⟩

/-- The place that a path names. -/
def target (w : Workspace) (path : Path) : List Text :=
  path.segments.foldl stepTo (w.start path.isAbsolute)

/-- A file that is written stands in the place that its path names, and no other file changes. -/
theorem write_eq_ok (h : w.write path bytes = .ok after) :
    after.directory = w.directory ∧ ∀ place, after.root.bytes? place =
      if place = w.target path then some bytes else w.root.bytes? place := by
  obtain ⟨⟨here, made⟩, hmade, h⟩ := Except.bind_eq_ok.mp h
  obtain ⟨root, hentered, rfl⟩ := makeParents_eq_ok hmade
  obtain ⟨rfl, hbytes⟩ := enter_eq_ok hentered
  dsimp only at h
  split at h
  · cases h
  next hnamed =>
  split at h
  · cases h
  obtain ⟨root', hwritten, h⟩ := Except.bind_eq_ok.mp h
  obtain rfl := Except.ok.inj h
  simp only [Bool.or_eq_true, decide_eq_true_eq, not_or] at hnamed
  have htarget : w.target path =
      path.directories.foldl stepTo (w.start path.isAbsolute) ++ [path.name] := by
    have hsegments : path.directories ++ [path.name] = path.segments := by
      rw [Path.directories, Path.name, List.getLast?_eq_some_getLast hnamed.1, Option.getD_some,
        List.dropLast_concat_getLast]
    rw [target, ← hsegments, List.foldl_append, List.foldl_cons,
      List.foldl_nil, stepTo, if_neg hnamed.2]
  refine ⟨rfl, fun place => ?_⟩
  rw [htarget, Node.bytes?_write hwritten, hbytes]

theorem foldl_stepTo {steps : List Text} (h : (".." : Text) ∉ steps) (here : List Text) :
    steps.foldl stepTo here = here ++ steps := by
  induction steps generalizing here with
  | nil => exact (List.append_nil here).symm
  | cons step steps ih =>
    rw [List.mem_cons, not_or] at h
    rw [List.foldl_cons, stepTo, if_neg (Ne.symm h.1), ih h.2, List.append_assoc]
    rfl

/-- Segments that do not lead back name what lies below. -/
theorem target_below {segments : List Text} (h : (".." : Text) ∉ segments) (w : Workspace) (path : Path) :
    w.target { path with segments := path.segments ++ segments } = w.target path ++ segments := by
  show (path.segments ++ segments).foldl stepTo (w.start path.isAbsolute) = _
  rw [List.foldl_append, foldl_stepTo h]
  rfl

theorem isAbsolute_ofText (t : Text) : (Path.ofText t).isAbsolute = t.startsWith "/" := by
  cases t with
  | nil => rfl
  | cons c t =>
    have hslash : Text.startsWith (c :: t) "/" = (CodePoint.ofChar '/' == c) := Bool.and_true _
    rw [hslash, Path.isAbsolute, Path.ofText]
    by_cases hc : c = CodePoint.ofChar '/'
    · simp only [hc, List.takeWhile_cons, decide_true, if_true]
      split
      · decide
      · simp
    · simp [hc, Ne.symm hc]

/-- Segments lead to where the text leads that they are the segments of. -/
theorem target_ofText (w : Workspace) (t : Text) : w.target (Path.ofText t) = w.placeOf t := by
  have hstep (here : List Text) (step : Text) :
      (if (step ≠ [] && step ≠ ".") = true then stepTo here step else here) =
        if staysHere step then here else if step = ".." then here.dropLast else here ++ [step] := by
    rw [stepTo, staysHere]
    by_cases hnil : step = []
    · simp [hnil]
    by_cases hpoint : step = "."
    · simp [hpoint]
    · simp [hnil, hpoint]
  rw [target, isAbsolute_ofText, placeOf]
  simp only [Path.ofText, List.foldl_filter, hstep]

end Workspace

end SitePreview
