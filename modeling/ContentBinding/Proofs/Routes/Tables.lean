import Mathlib.Data.List.Induction
import Mathlib.Data.List.TakeWhile
import ContentBinding.Routes

/-! Tables of pages and the locations that are looked up in them. Of a location only the file name
counts, and of the maps that were added to a table the last one that has the name. -/

namespace ContentBinding.Routes

variable {c d : Char} {cs u v : List Char} {name location directory rest : String}

/-! Cutting locations -/

theorem cut_of_not_mem (h : c ∉ cs) : cut c cs = cs := by
  rw [cut, List.takeWhile_eq_self_iff]
  intro d hd
  exact bne_iff_ne.mpr fun heq => h (heq ▸ hd)

theorem cut_append (h : c ∉ u) (v : List Char) : cut c (u ++ v) = u ++ cut c v := by
  apply List.takeWhile_append_of_pos
  intro d hd
  exact bne_iff_ne.mpr fun heq => h (heq ▸ hd)

theorem cut_cons_self (c : Char) (cs : List Char) : cut c (c :: cs) = [] :=
  List.takeWhile_cons_of_neg (by simp)

theorem cut_cons_of_ne (h : d ≠ c) (cs : List Char) : cut c (d :: cs) = d :: cut c cs :=
  List.takeWhile_cons_of_pos (bne_iff_ne.mpr h)

theorem not_mem_cut (c : Char) (cs : List Char) : c ∉ cut c cs := by
  intro h
  rw [cut] at h
  simpa using List.mem_takeWhile_imp h

theorem exists_cut_append (c : Char) (cs : List Char) :
    ∃ rest, cs = cut c cs ++ rest ∧ (rest = [] ∨ ∃ more, rest = c :: more) := by
  by_cases h : c ∈ cs
  · obtain ⟨before, after, rfl, hbefore⟩ := List.eq_append_cons_of_mem h
    refine ⟨c :: after, ?_, .inr ⟨after, rfl⟩⟩
    rw [cut_append hbefore, cut_cons_self, List.append_nil]
  · exact ⟨[], by rw [cut_of_not_mem h, List.append_nil], .inl rfl⟩

theorem afterLastSlash_slash (u : List Char) {v : List Char} (hv : '/' ∉ v) :
    afterLastSlash (u ++ '/' :: v) = v := by
  have hall : ∀ c ∈ v.reverse, (c != '/') = true := fun c hc =>
    bne_iff_ne.mpr fun heq => hv (heq ▸ List.mem_reverse.mp hc)
  have hreverse : (u ++ '/' :: v).reverse = v.reverse ++ '/' :: u.reverse := by simp
  rw [afterLastSlash, hreverse, List.takeWhile_append_of_pos hall, List.takeWhile_cons_of_neg (by simp),
    List.append_nil, List.reverse_reverse]

theorem afterLastSlash_of_not_mem (h : '/' ∉ cs) : afterLastSlash cs = cs := by
  have hall : ∀ c ∈ cs.reverse, (c != '/') = true := fun c hc =>
    bne_iff_ne.mpr fun heq => h (heq ▸ List.mem_reverse.mp hc)
  rw [afterLastSlash, List.takeWhile_eq_self_iff.mpr hall, List.reverse_reverse]

theorem exists_lastSlash (h : '/' ∈ cs) : ∃ u v, cs = u ++ '/' :: v ∧ '/' ∉ v := by
  obtain ⟨back, front, heq, hback⟩ := List.eq_append_cons_of_mem (List.mem_reverse.mpr h)
  exact ⟨front.reverse, back.reverse, by simpa using congrArg List.reverse heq,
    by simpa using hback⟩

/-! The parts of a location -/

/-- Directories up to their slash, a file name, and what begins with a question mark or a hash. -/
structure Parts (directory name rest : String) : Prop where
  directory_end : directory = "" ∨ ∃ front, directory = front ++ "/"
  directory_clear : '?' ∉ directory.toList ∧ '#' ∉ directory.toList
  name_slash : '/' ∉ name.toList
  name_clear : '?' ∉ name.toList ∧ '#' ∉ name.toList
  rest_start : rest = "" ∨ (∃ query, rest = "?" ++ query) ∨ ∃ fragment, rest = "#" ++ fragment

/-- Both cuts end at the first of the two characters, whichever it is. -/
theorem cut_cut_append (hquestion : '?' ∉ u) (hhash : '#' ∉ u)
    (hrest : v = [] ∨ v.head? = some '?' ∨ v.head? = some '#') :
    cut '#' (cut '?' (u ++ v)) = u := by
  rw [cut_append hquestion, cut_append hhash]
  cases v with
  | nil => exact List.append_nil u
  | cons c v =>
    -- after a hash the first cut may still take something off, before the second takes all
    rcases hrest with hnil | hhead | hhead
    · exact absurd hnil (List.cons_ne_nil c v)
    · obtain rfl : c = '?' := by simpa using hhead
      rw [cut_cons_self]
      exact List.append_nil u
    · obtain rfl : c = '#' := by simpa using hhead
      rw [cut_cons_of_ne (by decide), cut_cons_self, List.append_nil]

theorem Parts.fileName_eq (h : Parts directory name rest) :
    fileName (directory ++ name ++ rest) = name := by
  have hquestion : '?' ∉ (directory ++ name).toList := by
    simp [h.directory_clear.1, h.name_clear.1]
  have hhash : '#' ∉ (directory ++ name).toList := by
    simp [h.directory_clear.2, h.name_clear.2]
  have hrest : rest.toList = [] ∨ rest.toList.head? = some '?' ∨ rest.toList.head? = some '#' := by
    rcases h.rest_start with rfl | ⟨query, rfl⟩ | ⟨fragment, rfl⟩ <;> simp
  have hlast : afterLastSlash (directory ++ name).toList = name.toList := by
    rw [String.toList_append]
    rcases h.directory_end with rfl | ⟨front, rfl⟩
    · exact afterLastSlash_of_not_mem h.name_slash
    · have hsplit : (front ++ "/").toList ++ name.toList = front.toList ++ '/' :: name.toList := by
        simp
      rw [hsplit, afterLastSlash_slash _ h.name_slash]
  rw [fileName, String.toList_append, cut_cut_append hquestion hhash hrest, hlast,
    String.ofList_toList]

theorem exists_directory (cs : List Char) : ∃ directory name : String,
    cs = directory.toList ++ name.toList ∧
      (directory = "" ∨ ∃ front, directory = front ++ "/") ∧ '/' ∉ name.toList := by
  by_cases h : '/' ∈ cs
  · obtain ⟨u, v, rfl, hv⟩ := exists_lastSlash h
    exact ⟨String.ofList u ++ "/", String.ofList v, by simp, .inr ⟨_, rfl⟩, by simpa using hv⟩
  · exact ⟨"", String.ofList cs, by simp, .inl rfl, by simpa using h⟩

theorem exists_parts (location : String) :
    ∃ directory name rest, Parts directory name rest ∧ location = directory ++ name ++ rest := by
  obtain ⟨tail, htail, hquery⟩ := exists_cut_append '?' location.toList
  obtain ⟨middle, hmiddle, hfragment⟩ := exists_cut_append '#' (cut '?' location.toList)
  obtain ⟨directory, name, hfront, hend, hslash⟩ :=
    exists_directory (cut '#' (cut '?' location.toList))
  rw [hfront] at hmiddle
  have hquestion : '?' ∉ directory.toList ++ name.toList ++ middle :=
    hmiddle ▸ not_mem_cut '?' location.toList
  have hhash : '#' ∉ directory.toList ++ name.toList := hfront ▸ not_mem_cut '#' _
  simp only [List.mem_append, not_or] at hquestion hhash
  refine ⟨directory, name, String.ofList (middle ++ tail),
    ⟨hend, ⟨hquestion.1.1, hhash.1⟩, hslash, ⟨hquestion.1.2, hhash.2⟩, ?_⟩, ?_⟩
  · rcases hfragment with rfl | ⟨fragment, rfl⟩
    · rcases hquery with rfl | ⟨query, rfl⟩
      · exact .inl (by simp)
      · exact .inr (.inl ⟨String.ofList query, by simp⟩)
    · exact .inr (.inr ⟨String.ofList (fragment ++ tail), by simp⟩)
  · rw [← String.toList_inj, String.toList_append, String.toList_append, String.toList_ofList,
      ← List.append_assoc, ← hmiddle]
    exact htail

/-! The pages of a table -/

theorem lookup_page (p : String × String) (pages : List (String × String)) :
    (p :: pages).lookup name = if name = p.1 then some p.2 else pages.lookup name := by
  rw [List.lookup_cons]
  by_cases hname : name = p.1
  · simp [hname]
  · have hne : (name == p.1) = false := by simpa using hname
    simp [hname, hne]

theorem lookup_insertPage (n page : String) (pages : List (String × String)) :
    (insertPage n page pages).lookup name = if name = n then some page else pages.lookup name := by
  induction pages with
  | nil => rw [insertPage, lookup_page]
  | cons p pages ih =>
    rw [insertPage]
    by_cases hn : p.1 = n
    · rw [if_pos hn, lookup_page, lookup_page, hn]
      split_ifs <;> rfl
    · rw [if_neg hn, lookup_page, lookup_page, ih]
      split_ifs with hp hname
      · exact absurd (hp.symm.trans hname) hn
      all_goals rfl

theorem lookup_withPages (r : Routes) (more : List (String × String)) :
    (r.withPages more).pages.lookup name = (more.reverse.lookup name).or (r.pages.lookup name) := by
  unfold withPages insertPages
  induction more using List.reverseRecOn with
  | nil => simp
  | append_singleton more p ih =>
    rw [List.foldl_append, List.foldl_cons, List.foldl_nil, lookup_insertPage, ih,
      List.reverse_append, List.reverse_singleton, List.singleton_append, lookup_page]
    split_ifs <;> simp

/-- What maps say of a name. The last map that has it counts, and in that map its last entry. -/
def latest? (maps : List (List (String × String))) (name : String) : Option String :=
  maps.reverse.findSome? fun pages => pages.reverse.lookup name

theorem latest?_concat (maps : List (List (String × String))) (pages : List (String × String)) :
    latest? (maps ++ [pages]) name = (pages.reverse.lookup name).or (latest? maps name) := by
  rw [latest?, List.reverse_append, List.reverse_singleton, List.singleton_append,
    List.findSome?_cons]
  cases pages.reverse.lookup name with
  | none => rfl
  | some page => rfl

theorem lookup_foldl_withPages (r : Routes) (maps : List (List (String × String))) :
    (maps.foldl withPages r).pages.lookup name = (latest? maps name).or (r.pages.lookup name) := by
  induction maps using List.reverseRecOn with
  | nil => rfl
  | append_singleton maps pages ih =>
    rw [List.foldl_append, List.foldl_cons, List.foldl_nil, lookup_withPages, ih, latest?_concat,
      Option.or_assoc]

theorem default_foldl_withPages (r : Routes) (maps : List (List (String × String))) :
    (maps.foldl withPages r).default = r.default := by
  induction maps generalizing r with
  | nil => rfl
  | cons pages maps ih => exact ih (r.withPages pages)

def askedName (name : String) : String :=
  if name = "" then indexName else name

theorem Parts.pageFor_eq (h : Parts directory name rest) (r : Routes) :
    r.pageFor (directory ++ name ++ rest) =
      (r.pages.lookup (askedName name)).getD r.default := by
  have hasked : (if name.isEmpty then indexName else name) = askedName name := by
    simp only [askedName, String.isEmpty_iff]
  rw [pageFor, h.fileName_eq, hasked, lookup]

/-! Tables by their places -/

namespace Placed

variable {t u : Placed} {ds : Dictionaries} {pages : List (String × String)}
  {maps : List (List (String × String))} {i : Nat}

theorem size_withPages : (t.withPages ds pages).2.size = ds.size + 1 := by
  simp [withPages]

theorem now_withPages (t : Placed) (ds : Dictionaries) (pages : List (String × String)) :
    (t.withPages ds pages).1.now (t.withPages ds pages).2 = (t.now ds).withPages pages := by
  simp [withPages, now, Routes.withPages, Array.getElem_modify]

theorem now_frame (hu : u.place < ds.size) (t : Placed) (pages : List (String × String)) :
    u.now (t.withPages ds pages).2 = u.now ds := by
  have hne : ds.size ≠ u.place := hu.ne'
  simp [withPages, now, Array.getElem?_modify, Array.getElem?_push, hne, hu.ne]

theorem now_withAll_frame (hu : u.place < ds.size) (t : Placed)
    (maps : List (List (String × String))) : u.now (t.withAll ds maps).2 = u.now ds := by
  induction maps generalizing t ds with
  | nil => rfl
  | cons pages maps ih =>
    have hlater : u.place < (t.withPages ds pages).2.size := by
      rw [size_withPages]
      exact Nat.lt_succ_of_lt hu
    exact (ih hlater _).trans (now_frame hu t pages)

/-- When all maps were added, every table on the way says what it said when it was made. -/
theorem now_withAll (ht : t.place < ds.size) (hi : i ≤ maps.length) :
    ((t.withAll ds maps).1[i]?).map (·.now (t.withAll ds maps).2) =
      some ((maps.take i).foldl Routes.withPages (t.now ds)) := by
  induction maps generalizing t ds i with
  | nil =>
    obtain rfl := Nat.le_zero.mp hi
    rfl
  | cons pages maps ih =>
    cases i with
    | zero => exact congrArg some (now_withAll_frame ht t (pages :: maps))
    | succ i =>
      have hnext : (t.withPages ds pages).1.place < (t.withPages ds pages).2.size := by
        rw [size_withPages]
        exact Nat.lt_succ_self _
      have hrest := ih hnext (Nat.le_of_succ_le_succ hi)
      rw [now_withPages] at hrest
      exact hrest

end Placed

/-- Every location has a file name, and by that alone it is looked up. The table after some maps
answers what the last map with the name says, else what the table said at first, else its default
page. Where tables share dictionaries it still does when more maps have been added. -/
theorem pageFor_latest (r : Routes) (maps more : List (List (String × String))) :
    (∀ location, ∃ directory name rest, Parts directory name rest ∧
      location = directory ++ name ++ rest) ∧
    ∀ directory name rest, Parts directory name rest →
      (maps.foldl withPages r).pageFor (directory ++ name ++ rest) =
        ((latest? maps (askedName name)).or (r.pages.lookup (askedName name))).getD r.default ∧
      ∀ ds (t : Placed), t.place < ds.size → t.now ds = r →
        ((t.withAll ds (maps ++ more)).1[maps.length]?).map (fun held =>
            (held.now (t.withAll ds (maps ++ more)).2).pageFor (directory ++ name ++ rest)) =
          some (((latest? maps (askedName name)).or (r.pages.lookup (askedName name))).getD
            r.default) := by
  refine ⟨exists_parts, fun directory name rest h => ?_⟩
  have hanswer : (maps.foldl withPages r).pageFor (directory ++ name ++ rest) =
      ((latest? maps (askedName name)).or (r.pages.lookup (askedName name))).getD r.default := by
    rw [h.pageFor_eq, lookup_foldl_withPages, default_foldl_withPages]
  refine ⟨hanswer, fun ds t ht hnow => ?_⟩
  have hlength : maps.length ≤ (maps ++ more).length := by simp
  have htable := Placed.now_withAll ht hlength
  rw [hnow, List.take_left] at htable
  rw [← hanswer]
  simpa [Function.comp_def] using congrArg (Option.map (·.pageFor (directory ++ name ++ rest))) htable

/-! A page that two of three maps have, at a location with a hash before a question mark -/

def kitchenMaps : List (List (String × String)) :=
  [[("kitchen.html", "cook"), ("index.html", "start")], [("kitchen.html", "oven")]]

theorem parts_kitchen : Parts "/rooms/" "kitchen.html" "#top?a/b" where
  directory_end := .inr ⟨"/rooms", by decide⟩
  directory_clear := by decide
  name_slash := by decide
  name_clear := by decide
  rest_start := .inr (.inr ⟨"top?a/b", by decide⟩)

def standardPlace : Placed := ⟨0, standard.default⟩

theorem pageFor_latest_kitchen : Parts "/rooms/" "kitchen.html" "#top?a/b" ∧
    (kitchenMaps.foldl withPages standard).pageFor ("/rooms/" ++ "kitchen.html" ++ "#top?a/b") =
      "oven" ∧
    ((standardPlace.withAll #[defaultPages] (kitchenMaps ++ [[("kitchen.html", "sink")]])).1[2]?).map
      (fun held => (held.now (standardPlace.withAll #[defaultPages]
        (kitchenMaps ++ [[("kitchen.html", "sink")]])).2).pageFor
          ("/rooms/" ++ "kitchen.html" ++ "#top?a/b")) = some "oven" := by
  obtain ⟨-, hlatest⟩ := pageFor_latest standard kitchenMaps [[("kitchen.html", "sink")]]
  obtain ⟨hnow, hlater⟩ := hlatest _ _ _ parts_kitchen
  have hanswer : ((latest? kitchenMaps (askedName "kitchen.html")).or
      (standard.pages.lookup (askedName "kitchen.html"))).getD standard.default = "oven" := by
    decide
  rw [hanswer] at hnow hlater
  exact ⟨parts_kitchen, hnow, hlater #[defaultPages] standardPlace (by decide) rfl⟩

end ContentBinding.Routes
