import Mathlib.Data.String.Basic

/-!
# `path.Clean`, `path.Join`, `filepath.Abs`, and mux's `cleanPath`

`path.Clean` works on the elements between slashes, as its documentation states it: empty and
`.` elements go; a `..` removes the real element before it, goes at the root of a rooted path,
and stays at the start of a relative one. `path.Join` is the standard library's loop followed by
`Clean`, and `filepath.Abs` is `Clean` or a `Join` to the working directory. Gorilla mux cleans
every request path with `cleanPath` before it matches a route.

* `pathClean_of_plain`, `muxCleanPath_of_plain`: a rooted path of plain elements (not empty, not
  `.` or `..`) is clean.
* `not_mem_of_mem_splitOn`: no element of a split contains the separator.
* `pathClean_rootedClean`, `rooted_of_pathClean`: `Clean` of a rooted path is a slash and plain
  elements, and only a rooted path cleans to a rooted one.
* `filepathAbs_rootedClean`: what `filepath.Abs` gives with a leading slash is clean.
* `filepathAbs_relative`: a relative path without `..` elements is placed in the working
  directory, after the directory's own elements.
-/

namespace Lxd

namespace Go

/-- A path element that `Clean` keeps as it is: not empty, not `.` or `..`, without a slash. -/
def Plain (e : List Char) : Prop := e ≠ [] ∧ e ≠ ['.'] ∧ e ≠ ['.', '.'] ∧ '/' ∉ e

instance (e : List Char) : Decidable (Plain e) := inferInstanceAs (Decidable (_ ∧ _))

/-- The element loop of `path.Clean`; `acc` holds the elements kept so far, last first. -/
def cleanElems (rooted : Bool) : List (List Char) → List (List Char) → List (List Char)
  | acc, [] => acc.reverse
  | acc, e :: rest =>
    if e = [] ∨ e = ['.'] then cleanElems rooted acc rest
    else if e = ['.', '.'] then
      match acc with
      | a :: acc' =>
        if a = ['.', '.'] then cleanElems rooted (e :: acc) rest else cleanElems rooted acc' rest
      | [] => cleanElems rooted (if rooted then [] else [e]) rest
    else cleanElems rooted (e :: acc) rest

/-- `path.Clean(p)`. -/
def pathClean (p : String) : String :=
  if p = "" then "."
  else
    let rooted := p.toList.head? == some '/'
    let body := ['/'].intercalate (cleanElems rooted [] (p.toList.splitOn '/'))
    if rooted then String.mk ('/' :: body) else if body = [] then "." else String.mk body

/-- `path.Join(elem...)`: the elements joined by slashes, skipping empty ones before the first
non-empty one, then cleaned; `""` when their total size is zero, that is when all are empty. -/
def pathJoin (elem : List String) : String :=
  if elem.all (·.isEmpty) then ""
  else
    pathClean (elem.foldl (fun buf e =>
      if buf.isEmpty && e.isEmpty then buf else (if buf.isEmpty then buf else buf ++ "/") ++ e) "")

/-- mux's `cleanPath(p)`: `path.Clean` of the path made rooted, keeping a trailing slash. -/
def muxCleanPath (p : String) : String :=
  if p = "" then "/"
  else
    let p := if p.toList.head? = some '/' then p else "/" ++ p
    let np := pathClean p
    if p.toList.getLast? = some '/' ∧ np ≠ "/" then np ++ "/" else np

theorem cleanElems_of_plain (rooted : Bool) :
    ∀ {acc es : List (List Char)}, (∀ e ∈ es, Plain e) → cleanElems rooted acc es = acc.reverse ++ es
  | _, [], _ => by simp [cleanElems]
  | acc, e :: es, h => by
    obtain ⟨he, hdot, hdots, -⟩ := h e (List.mem_cons_self _ _)
    simp only [cleanElems, he, hdot, hdots, or_self, ↓reduceIte,
      cleanElems_of_plain rooted fun e' he' => h e' (List.mem_cons_of_mem _ he')]
    simp

theorem not_mem_of_mem_splitOn {a : Char} :
    ∀ {xs l : List Char}, l ∈ xs.splitOn a → a ∉ l
  | [], l, h => by simp_all
  | x :: xs, l, h => by
    have ih : ∀ l ∈ xs.splitOn a, a ∉ l := fun l hl => not_mem_of_mem_splitOn hl
    unfold List.splitOn at h ih
    rw [List.splitOnP_cons] at h
    split at h
    · rcases List.mem_cons.mp h with rfl | h
      · simp
      · exact ih l h
    · rename_i hx
      obtain ⟨l₀, ls, hsplit⟩ := List.exists_cons_of_ne_nil (List.splitOnP_ne_nil (· == a) xs)
      rw [hsplit] at h ih
      simp only [List.modifyHead, List.mem_cons] at h
      rcases h with rfl | h
      · exact List.not_mem_cons_of_ne_of_not_mem (fun h' => hx (by rw [h']; exact beq_self_eq_true _))
          (ih l₀ (List.mem_cons_self _ _))
      · exact ih l (List.mem_cons_of_mem _ h)

/-- The rooted path of the elements `es`: a slash before each. -/
def absPath : List (List Char) → List Char
  | [] => []
  | e :: es => '/' :: (e ++ absPath es)

theorem absPath_eq_intercalate : ∀ {es : List (List Char)}, es ≠ [] →
    absPath es = '/' :: ['/'].intercalate es
  | [], h => absurd rfl h
  | [e], _ => by simp [absPath, List.intercalate]
  | e :: e' :: es, _ => by
    rw [absPath, absPath_eq_intercalate (List.cons_ne_nil e' es)]
    simp [List.intercalate, List.intersperse_cons_cons]

theorem intercalate_nil_cons {es : List (List Char)} (hes : es ≠ []) :
    ['/'].intercalate ([] :: es) = absPath es := by
  obtain ⟨e, es', rfl⟩ := List.exists_cons_of_ne_nil hes
  rw [absPath_eq_intercalate hes]
  simp [List.intercalate, List.intersperse_cons_cons]

theorem splitOn_absPath : ∀ {es : List (List Char)}, (∀ e ∈ es, '/' ∉ e) →
    (absPath es).splitOn '/' = [] :: es
  | [], _ => rfl
  | e :: es, h => by
    have ih := splitOn_absPath fun e' he' => h e' (List.mem_cons_of_mem _ he')
    have he : ∀ x ∈ e, ¬(x == '/') = true := fun x hx hxs =>
      h e (List.mem_cons_self _ _) (eq_of_beq hxs ▸ hx)
    unfold List.splitOn at ih ⊢
    rw [absPath, List.splitOnP_cons, if_pos (beq_self_eq_true _)]
    cases es with
    | nil => rw [absPath, List.append_nil, List.splitOnP_eq_single _ _ he]
    | cons e' es =>
      rw [absPath, List.splitOnP_first _ _ he _ (beq_self_eq_true _)]
      rw [absPath, List.splitOnP_cons, if_pos (beq_self_eq_true _)] at ih
      rw [(List.cons_eq_cons.mp ih).2]

theorem getLast?_absPath_ne : ∀ {es : List (List Char)}, es ≠ [] → (∀ e ∈ es, Plain e) →
    (absPath es).getLast? ≠ some '/'
  | [], h, _ => absurd rfl h
  | [e], _, h => by
    obtain ⟨he, -, -, hs⟩ := h e (List.mem_singleton_self _)
    obtain ⟨e', c, rfl⟩ := (List.eq_nil_or_concat e).resolve_left he
    rw [absPath, absPath, List.append_nil, List.concat_eq_append, ← List.cons_append,
      List.getLast?_concat]
    exact fun hc => hs (Option.some.inj hc ▸ by simp)
  | e :: e' :: es, _, h => by
    rw [absPath, ← List.cons_append, List.getLast?_append_of_ne_nil _ (by simp [absPath])]
    exact getLast?_absPath_ne (List.cons_ne_nil e' es) fun e'' he'' => h e'' (List.mem_cons_of_mem _ he'')

/-- A rooted path of plain elements is clean. -/
theorem pathClean_of_plain {es : List (List Char)} (hes : es ≠ []) (hp : ∀ e ∈ es, Plain e) :
    pathClean (String.mk (absPath es)) = String.mk (absPath es) := by
  obtain ⟨e, es', rfl⟩ := List.exists_cons_of_ne_nil hes
  have hne : String.mk (absPath (e :: es')) ≠ "" := fun h => List.cons_ne_nil _ _ (congrArg String.data h)
  have hhead : (absPath (e :: es')).head? = some '/' := rfl
  have hsplit := splitOn_absPath fun e he => (hp e he).2.2.2
  simp only [pathClean, hne, ↓reduceIte, String.toList, hhead, beq_self_eq_true, hsplit]
  rw [cleanElems, if_pos (Or.inl rfl), cleanElems_of_plain _ hp, absPath_eq_intercalate hes]
  simp [absPath]

/-- A rooted path of plain elements is what mux's `cleanPath` leaves. -/
theorem muxCleanPath_of_plain {es : List (List Char)} (hes : es ≠ []) (hp : ∀ e ∈ es, Plain e) :
    muxCleanPath (String.mk (absPath es)) = String.mk (absPath es) := by
  obtain ⟨e, es', rfl⟩ := List.exists_cons_of_ne_nil hes
  have hne : String.mk (absPath (e :: es')) ≠ "" := fun h => List.cons_ne_nil _ _ (congrArg String.data h)
  have hhead : (absPath (e :: es')).head? = some '/' := rfl
  simp only [muxCleanPath, hne, ↓reduceIte, String.toList, hhead, pathClean_of_plain hes hp]
  rw [if_neg (fun h => getLast?_absPath_ne hes hp h.1)]

/-! ## What `Clean` leaves -/

/-- An element `Clean` may leave: not empty, not `.`, without a slash, and not `..` in a rooted
path. -/
def Kept (rooted : Bool) (e : List Char) : Prop :=
  e ≠ [] ∧ e ≠ ['.'] ∧ '/' ∉ e ∧ (rooted → e ≠ ['.', '.'])

theorem plain_of_kept {e : List Char} (h : Kept true e) : Plain e :=
  ⟨h.1, h.2.1, h.2.2.2 rfl, h.2.2.1⟩

/-- The loop keeps only such elements. -/
theorem cleanElems_kept (rooted : Bool) {acc es : List (List Char)}
    (hacc : ∀ e ∈ acc, Kept rooted e) (hes : ∀ e ∈ es, '/' ∉ e) :
    ∀ e ∈ cleanElems rooted acc es, Kept rooted e := by
  induction acc, es using cleanElems.induct rooted with
  | case1 acc => simpa [cleanElems] using hacc
  | case2 acc e rest hdot ih =>
    simp only [cleanElems, hdot, ↓reduceIte]
    exact ih hacc fun e' he' => hes e' (List.mem_cons_of_mem _ he')
  | case3 rest acc' hne ih =>
    simp only [cleanElems, hne, ↓reduceIte]
    refine ih (fun e he => ?_) fun e' he' => hes e' (List.mem_cons_of_mem _ he')
    rcases List.mem_cons.mp he with rfl | he
    · exact hacc _ (List.mem_cons_self _ _)
    · exact hacc e he
  | case4 rest a acc' ha hne ih =>
    simp only [cleanElems, hne, ha, ↓reduceIte]
    exact ih (fun e he => hacc e (List.mem_cons_of_mem _ he))
      fun e' he' => hes e' (List.mem_cons_of_mem _ he')
  | case5 rest hne ih =>
    simp only [cleanElems, hne, ↓reduceIte]
    refine ih (fun e he => ?_) fun e' he' => hes e' (List.mem_cons_of_mem _ he')
    cases rooted
    · simp only [Bool.false_eq_true, ↓reduceIte, List.mem_singleton] at he
      subst he
      exact ⟨by decide, by decide, by decide, by decide⟩
    · simp at he
  | case6 acc e rest hdot hdots ih =>
    simp only [cleanElems, hdot, hdots, ↓reduceIte]
    refine ih (fun e' he' => ?_) fun e' he' => hes e' (List.mem_cons_of_mem _ he')
    rcases List.mem_cons.mp he' with rfl | he'
    · exact ⟨fun h => hdot (.inl h), fun h => hdot (.inr h), hes _ (List.mem_cons_self _ _),
        fun _ => hdots⟩
    · exact hacc e' he'

/-- A clean rooted path: a slash, then its plain elements between slashes. -/
def RootedClean (p : String) : Prop :=
  ∃ es : List (List Char), (∀ e ∈ es, Plain e) ∧ p = String.mk ('/' :: ['/'].intercalate es)

/-- `Clean` of a rooted path is clean. -/
theorem pathClean_rootedClean {p : String} (h : p.toList.head? = some '/') :
    RootedClean (pathClean p) := by
  have hne : p ≠ "" := by
    rintro rfl
    cases h
  refine ⟨cleanElems true [] (p.toList.splitOn '/'), fun e he => plain_of_kept
    (cleanElems_kept true (by simp) (fun e he => not_mem_of_mem_splitOn he) e he), ?_⟩
  have h' : p.data.head? = some '/' := h
  simp [pathClean, hne, h']

theorem head?_intercalate {a : Char} {e : List Char} (he : e ≠ []) :
    ∀ es : List (List Char), ([a].intercalate (e :: es)).head? = e.head?
  | [] => by simp [List.intercalate]
  | e' :: es => by
    obtain ⟨c, cs, rfl⟩ := List.exists_cons_of_ne_nil he
    simp [List.intercalate, List.intersperse_cons_cons]

/-- Only a rooted path cleans to a rooted one. -/
theorem rooted_of_pathClean {p : String} (h : (pathClean p).toList.head? = some '/') :
    p.toList.head? = some '/' := by
  by_contra hr
  have hp : p ≠ "" := by
    rintro rfl
    simp [pathClean] at h
  have hkept : ∀ e ∈ cleanElems false [] (p.toList.splitOn '/'), Kept false e :=
    cleanElems_kept false (by simp) fun e he => not_mem_of_mem_splitOn he
  have hrb : (p.toList.head? == some '/') = false := by simpa using hr
  simp only [pathClean, hp, ↓reduceIte, hrb, Bool.false_eq_true] at h
  split_ifs at h with hb
  · cases h
  · obtain ⟨e, es, hes⟩ := List.exists_cons_of_ne_nil
      (fun h' => hb (by rw [h']; rfl) : cleanElems false [] (p.toList.splitOn '/') ≠ [])
    obtain ⟨he, -, hs, -⟩ := hkept e (hes ▸ List.mem_cons_self _ _)
    rw [String.toList, hes, head?_intercalate he] at h
    exact hs (List.mem_of_mem_head? h)

/-! ## Joining to a working directory -/

theorem cleanElems_append (rooted : Bool) {acc xs : List (List Char)} (ys : List (List Char)) :
    cleanElems rooted acc (xs ++ ys) = cleanElems rooted (cleanElems rooted acc xs).reverse ys := by
  induction acc, xs using cleanElems.induct rooted with
  | case1 acc => simp [cleanElems]
  | case2 acc e rest hdot ih => simp only [List.cons_append, cleanElems, hdot, ↓reduceIte, List.append_eq, ih]
  | case3 rest acc' hne ih => simp only [List.cons_append, cleanElems, hne, ↓reduceIte, List.append_eq, ih]
  | case4 rest a acc' ha hne ih => simp only [List.cons_append, cleanElems, hne, ha, ↓reduceIte, List.append_eq, ih]
  | case5 rest hne ih => simp only [List.cons_append, cleanElems, hne, ↓reduceIte, List.append_eq, ih]
  | case6 acc e rest hdot hdots ih =>
    simp only [List.cons_append, cleanElems, hdot, hdots, ↓reduceIte, List.append_eq, ih]

/-- Without `..`, the loop drops the empty and `.` elements and keeps the others in order. -/
theorem cleanElems_of_no_dotdot (rooted : Bool) {es : List (List Char)}
    (h : ∀ e ∈ es, e ≠ ['.', '.']) (acc : List (List Char)) :
    cleanElems rooted acc es = acc.reverse ++ es.filter fun e => e ≠ [] ∧ e ≠ ['.'] := by
  induction es generalizing acc with
  | nil => simp [cleanElems]
  | cons e es ih =>
    have ih := ih fun e' he' => h e' (List.mem_cons_of_mem _ he')
    by_cases hd : e = [] ∨ e = ['.']
    · simp only [cleanElems, hd, ↓reduceIte, ih]
      rcases hd with rfl | rfl <;> simp
    · simp only [cleanElems, hd, h e (List.mem_cons_self _ _), ↓reduceIte, ih]
      simp [List.filter_cons, not_or.mp hd]

theorem splitOn_append_cons (a : Char) (ys : List Char) :
    ∀ xs : List Char, (xs ++ a :: ys).splitOn a = xs.splitOn a ++ ys.splitOn a
  | [] => by simp [List.splitOn, List.splitOnP_cons]
  | x :: xs => by
    have ih := splitOn_append_cons a ys xs
    unfold List.splitOn at ih ⊢
    rw [List.cons_append, List.splitOnP_cons, List.splitOnP_cons, ih]
    split
    · rfl
    · obtain ⟨l₀, ls, hsplit⟩ := List.exists_cons_of_ne_nil (List.splitOnP_ne_nil (· == a) xs)
      simp [hsplit]

theorem infix_intercalate (a : Char) :
    ∀ {es : List (List Char)} {e : List Char}, e ∈ es → e <:+: [a].intercalate es
  | [_], e, h => by
    rw [List.mem_singleton.mp h]
    simp [List.intercalate]
  | e₀ :: e₁ :: es, e, h => by
    have hj : [a].intercalate (e₀ :: e₁ :: es) = e₀ ++ a :: [a].intercalate (e₁ :: es) := by
      simp [List.intercalate, List.intersperse_cons_cons]
    rw [hj]
    rcases List.mem_cons.mp h with rfl | h
    · exact List.infix_append [] _ _
    · exact (infix_intercalate a h).trans ((List.suffix_cons _ _).trans (List.suffix_append _ _)).isInfix

theorem infix_of_mem_splitOn {a : Char} {xs e : List Char} (h : e ∈ xs.splitOn a) : e <:+: xs := by
  have := infix_intercalate a h
  rwa [List.intercalate_splitOn] at this

/-- `path.Join` of a non-empty directory and a name: the two with a slash between them, cleaned. -/
theorem pathJoin_pair {a : String} (b : String) (ha : a ≠ "") :
    pathJoin [a, b] = pathClean (a ++ "/" ++ b) := by
  have ha' : a.isEmpty = false := Bool.eq_false_iff.mpr fun h => ha ((String.isEmpty_iff a).mp h)
  have he : "".isEmpty = true := rfl
  simp [pathJoin, ha', he]

/-- `filepath.Abs(path)` on Unix: a rooted path is cleaned, and any other is joined to the working
directory that `os.Getwd` gives. -/
def filepathAbs (getwd : Except String String) (path : String) : Except String String :=
  if path.toList.head? = some '/' then .ok (pathClean path)
  else getwd.map fun wd => pathJoin [wd, path]

theorem pathJoin_eq (elem : List String) : pathJoin elem = "" ∨ ∃ q, pathJoin elem = pathClean q := by
  unfold pathJoin
  split_ifs
  exacts [.inl rfl, .inr ⟨_, rfl⟩]

/-- What `filepath.Abs` gives that starts with a slash is a clean rooted path. -/
theorem filepathAbs_rootedClean {getwd : Except String String} {path t : String}
    (h : filepathAbs getwd path = .ok t) (ht : t.toList.head? = some '/') : RootedClean t := by
  obtain ⟨q, rfl⟩ : ∃ q, t = pathClean q := by
    unfold filepathAbs at h
    split_ifs at h
    · exact ⟨path, (Except.ok.inj h).symm⟩
    · cases getwd with
      | error e => cases h
      | ok wd =>
        obtain rfl : pathJoin [wd, path] = t := Except.ok.inj h
        rcases pathJoin_eq [wd, path] with h0 | ⟨q, hq⟩
        · rw [h0] at ht
          cases ht
        · exact ⟨q, hq⟩
  exact pathClean_rootedClean (rooted_of_pathClean ht)

/-- `filepath.Abs` of a relative path without `..` elements, from a rooted working directory,
stays in that directory: its elements are those of the cleaned directory, then the path's own
without the empty and `.` ones. -/
theorem filepathAbs_relative {wd path t : String} (hwd : wd.toList.head? = some '/')
    (hrel : path.toList.head? ≠ some '/') (hdots : ∀ e ∈ path.toList.splitOn '/', e ≠ ['.', '.'])
    (h : filepathAbs (.ok wd) path = .ok t) :
    t = String.mk ('/' :: ['/'].intercalate (cleanElems true [] (wd.toList.splitOn '/') ++
      (path.toList.splitOn '/').filter fun e => e ≠ [] ∧ e ≠ ['.'])) := by
  have hwd0 : wd ≠ "" := by
    rintro rfl
    cases hwd
  simp only [filepathAbs, hrel, ↓reduceIte] at h
  obtain rfl : pathJoin [wd, path] = t := Except.ok.inj h
  have hdata : (wd ++ "/" ++ path).toList = wd.toList ++ '/' :: path.toList := by
    simp [String.toList, String.data_append]
  have hne : wd ++ "/" ++ path ≠ "" := fun h0 => by
    have hlen := congrArg List.length hdata
    rw [h0] at hlen
    simp at hlen
    omega
  obtain ⟨c, cs, hc⟩ := List.exists_cons_of_ne_nil fun h0 : wd.toList = [] => by
    rw [h0] at hwd
    cases hwd
  have hhead : (wd.toList ++ '/' :: path.toList).head? = some '/' := by
    rw [hc] at hwd ⊢
    exact hwd
  rw [pathJoin_pair path hwd0]
  simp only [pathClean, hne, ↓reduceIte, hdata, hhead, beq_self_eq_true, splitOn_append_cons,
    cleanElems_append, cleanElems_of_no_dotdot true hdots, List.reverse_reverse]

end Go

end Lxd
