import Mathlib.Data.List.Basic

/-!
# Lexical file paths

`Clean` and `Join` of Go's `path/filepath` on Unix. Whatever a directory is, joining names to it puts one
and the same text before each of them (`exists_join_eq`), so different names make different paths.
-/

namespace SandboxProvider.Lib.FilePath

def dot : List Char := ['.']

def dots : List Char := ['.', '.']

/-- The elements of a cleaned path, with those already kept in reverse. An element `..` takes the one
before it away; at the root it is dropped, and at the beginning of a relative path it stays. -/
def cleanElements (rooted : Bool) (kept : List (List Char)) : List (List Char) → List (List Char)
  | [] => kept.reverse
  | e :: rest =>
    if e = [] ∨ e = dot then cleanElements rooted kept rest
    else if e = dots then
      match kept with
      | [] => cleanElements rooted (if rooted then [] else [dots]) rest
      | k :: kept =>
        if k = dots then cleanElements rooted (dots :: k :: kept) rest
        else cleanElements rooted kept rest
    else cleanElements rooted (e :: kept) rest

/-- The text of cleaned elements. -/
def render (rooted : Bool) (elements : List (List Char)) : List Char :=
  if rooted then '/' :: ['/'].intercalate elements
  else if elements = [] then dot
  else ['/'].intercalate elements

def isRooted (path : List Char) : Bool := path.head? = some '/'

def cleanChars (path : List Char) : List Char :=
  render (isRooted path) (cleanElements (isRooted path) [] (path.splitOn '/'))

/-- `filepath.Clean`. -/
def clean (path : String) : String := String.ofList (cleanChars path.toList)

/-- `filepath.Join` of two elements; empty ones are ignored. -/
def join (directory name : String) : String :=
  if directory = "" then if name = "" then "" else clean name
  else if name = "" then clean directory
  else clean (directory ++ "/" ++ name)

/-- A name that is one element of a path. -/
structure IsName (name : List Char) : Prop where
  ne_nil : name ≠ []
  ne_dot : name ≠ dot
  ne_dots : name ≠ dots
  slash : '/' ∉ name

instance (name : List Char) : Decidable (IsName name) :=
  decidable_of_iff (name ≠ [] ∧ name ≠ dot ∧ name ≠ dots ∧ '/' ∉ name)
    ⟨fun ⟨hne, hdot, hdots, hslash⟩ => ⟨hne, hdot, hdots, hslash⟩,
      fun h => ⟨h.ne_nil, h.ne_dot, h.ne_dots, h.slash⟩⟩

/-- A name at the end is kept. -/
theorem cleanElements_concat (rooted : Bool) {name : List Char} (h : IsName name)
    (elements : List (List Char)) (kept : List (List Char)) :
    cleanElements rooted kept (elements ++ [name]) = cleanElements rooted kept elements ++ [name] := by
  have hskip : ¬ (name = [] ∨ name = dot) := not_or.mpr ⟨h.ne_nil, h.ne_dot⟩
  induction elements generalizing kept with
  | nil =>
    simp only [List.nil_append, cleanElements, if_neg hskip, if_neg h.ne_dots]
    exact List.reverse_cons
  | cons e rest ih =>
    rw [List.cons_append, cleanElements.eq_def rooted kept (e :: (rest ++ [name])),
      cleanElements.eq_def rooted kept (e :: rest)]
    dsimp only
    split
    · exact ih kept
    · split
      · split
        · exact ih _
        · split
          · exact ih _
          · exact ih _
      · exact ih _

theorem intercalate_concat (elements : List (List Char)) (name : List Char) :
    ['/'].intercalate (elements ++ [name]) = elements.flatMap (· ++ ['/']) ++ name := by
  induction elements with
  | nil => simp
  | cons e rest ih =>
    have hne : rest ++ [name] ≠ [] := List.append_ne_nil_of_right_ne_nil _ (List.cons_ne_nil _ _)
    rw [List.cons_append, List.intercalate_cons_of_ne_nil hne, ih, List.flatMap_cons]
    simp

theorem splitOn_concat {name : List Char} (h : IsName name) (path : List Char) :
    (path ++ '/' :: name).splitOn '/' = path.splitOn '/' ++ [name] := by
  have hname : name.splitOnP (· == '/') = [name] := by
    refine List.splitOnP_eq_singleton fun ch hch => ?_
    exact beq_eq_false_iff_ne.mpr (ne_of_mem_of_not_mem hch h.slash)
  unfold List.splitOn
  rw [List.splitOnP_append_cons path name (by decide), hname]

theorem render_concat (rooted : Bool) (elements : List (List Char)) (name : List Char) :
    render rooted (elements ++ [name]) =
      (if rooted then ['/'] else []) ++ elements.flatMap (· ++ ['/']) ++ name := by
  have hne : elements ++ [name] ≠ [] := List.append_ne_nil_of_right_ne_nil _ (List.cons_ne_nil _ _)
  unfold render
  rw [if_neg hne, intercalate_concat]
  cases rooted <;> simp

theorem cleanChars_name {name : List Char} (h : IsName name) : cleanChars name = name := by
  have hrooted : isRooted name = false := by
    refine decide_eq_false fun hhead => h.slash ?_
    exact List.mem_of_mem_head? hhead
  have hsplit : name.splitOn '/' = [] ++ [name] := by
    refine List.splitOnP_eq_singleton fun ch hch => ?_
    exact beq_eq_false_iff_ne.mpr (ne_of_mem_of_not_mem hch h.slash)
  rw [cleanChars, hrooted, hsplit, cleanElements_concat false h, render_concat]
  rfl

/-- **Joining names to a directory** puts the same text before each of them. -/
theorem exists_join_eq (directory : String) :
    ∃ before : String, ∀ name : String, IsName name.toList → join directory name = before ++ name := by
  by_cases hempty : directory = ""
  · refine ⟨"", fun name hname => ?_⟩
    have hne : name ≠ "" := by
      rintro rfl
      exact hname.ne_nil rfl
    rw [join, if_pos hempty, if_neg hne, clean, cleanChars_name hname, String.ofList_toList,
      String.empty_append]
  · have hchars : directory.toList ≠ [] := mt String.toList_eq_nil_iff.mp hempty
    let rooted := isRooted directory.toList
    let elements := cleanElements rooted [] (directory.toList.splitOn '/')
    refine ⟨String.ofList ((if rooted then ['/'] else []) ++ elements.flatMap (· ++ ['/'])),
      fun name hname => ?_⟩
    have hne : name ≠ "" := by
      rintro rfl
      exact hname.ne_nil rfl
    have htext : (directory ++ "/" ++ name).toList = directory.toList ++ '/' :: name.toList := by
      simp
    have hhead : isRooted (directory.toList ++ '/' :: name.toList) = rooted := by
      unfold isRooted
      rw [List.head?_append_of_ne_nil _ hchars]
      rfl
    rw [join, if_neg hempty, if_neg hne, clean, htext, cleanChars, hhead, splitOn_concat hname,
      cleanElements_concat rooted hname, render_concat, String.ofList_append, String.ofList_toList]

/-- Different names make different paths. -/
theorem join_injOn (directory : String) {name name' : String} (h : IsName name.toList)
    (h' : IsName name'.toList) (heq : join directory name = join directory name') : name = name' := by
  obtain ⟨before, hbefore⟩ := exists_join_eq directory
  rw [hbefore name h, hbefore name' h'] at heq
  exact (String.append_right_inj before).mp heq

end SandboxProvider.Lib.FilePath
