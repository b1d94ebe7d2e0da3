import SqlInsert.Proofs.FileText
import SqlInsert.Proofs.Outcome
/-!
# Writing to a file store

A text that was written to a file is what is read from it, and nothing else in the store has changed: the
directory of the file was there before, so no other place became a directory.
-/

namespace SqlInsert

namespace Text

/-- Splitting leaves at least one piece. -/
theorem splitAt_ne_nil (isSeparator : Char → Bool) (text : List Char) : splitAt isSeparator text ≠ [] := by
  induction text with
  | nil => exact List.cons_ne_nil _ _
  | cons c rest ih =>
    obtain ⟨part, parts, hrest⟩ := List.exists_cons_of_ne_nil ih
    rw [splitAt, hrest]
    dsimp only
    split_ifs <;> exact List.cons_ne_nil _ _

/-- The last part is not empty if the text does not end with a separator. -/
theorem getLast?_splitAt_ne {isSeparator : Char → Bool} {text : List Char} (hnil : text ≠ [])
    (hlast : ∀ c, text.getLast? = some c → isSeparator c = false) :
    (splitAt isSeparator text).getLast? ≠ some [] := by
  induction text with
  | nil => exact absurd rfl hnil
  | cons c rest ih =>
    obtain ⟨part, parts, hrest⟩ := List.exists_cons_of_ne_nil (splitAt_ne_nil isSeparator rest)
    rw [splitAt, hrest]
    dsimp only
    cases rest with
    | nil =>
      cases hrest
      rw [hlast c rfl]
      exact fun h => by cases h
    | cons next others =>
      have hpart : (part :: parts).getLast? ≠ some [] :=
        hrest ▸ ih (List.cons_ne_nil _ _) fun c hc => hlast c (by rw [List.getLast?_cons_cons]; exact hc)
      -- A separator in front starts a new part, any other character joins the first one; the last part stays.
      split_ifs
      · rw [List.getLast?_cons_cons]
        exact hpart
      · cases parts with
        | nil => exact fun h => by cases h
        | cons second others =>
          rw [List.getLast?_cons_cons] at hpart ⊢
          exact hpart

/-- A text that does not end with a member of the class keeps its end. -/
theorem dropEndWhile_eq_self {inClass : Char → Bool} {text : List Char}
    (hlast : ∀ c, text.getLast? = some c → inClass c = false) : dropEndWhile inClass text = text := by
  have hreverse : text.reverse.dropWhile inClass = text.reverse := by
    cases hnewest : text.reverse with
    | nil => rfl
    | cons c others =>
      have hc : text.getLast? = some c := by rw [← List.head?_reverse, hnewest, List.head?_cons]
      rw [List.dropWhile_cons_of_neg (Bool.eq_false_iff.mp (hlast c hc))]
  rw [dropEndWhile, hreverse, List.reverse_reverse]

end Text

namespace CommandLine

namespace FileStore

variable {store : FileStore}

/-! ## One file more -/

/-- Removing an entry leaves every other to be found. -/
theorem lookup_filter_ne {names other : List String} (h : other ≠ names) (entries : List (List String × StoredEntry)) :
    (entries.filter fun (known, _) => known ≠ names).lookup other = entries.lookup other := by
  induction entries with
  | nil => rfl
  | cons entry rest ih =>
    obtain ⟨known, entry⟩ := entry
    by_cases hknown : known = names
    · have hother : (other == known) = false := beq_eq_false_iff_ne.mpr (hknown ▸ h)
      rw [List.filter_cons_of_neg (by simpa using hknown), ih, List.lookup_cons, hother]
    · rw [List.filter_cons_of_pos (by simpa using hknown), List.lookup_cons, List.lookup_cons, ih]

/-- Whether anything is stored at a place or below it, for a new file and one more place. -/
theorem any_put (names other : List String) (bytes : List UInt8) (store : FileStore) :
    ((store.put names bytes).entries.any fun (known, _) => other.isPrefixOf known) =
      (other.isPrefixOf names ||
        (store.entries.filter fun (known, _) => known ≠ names).any fun (known, _) => other.isPrefixOf known) := by
  rw [put, List.any_append, Bool.or_comm]
  simp only [List.any_cons, List.any_nil, Bool.or_false]

/-- A new file is in its place. -/
theorem entry?_put_self {names : List String} (h : names ≠ []) (bytes : List UInt8) (store : FileStore) :
    FileStore.entry? (store.put names bytes) names = some (.file bytes) := by
  have hold : (store.entries.filter fun (known, _) => known ≠ names).lookup names = none := by
    rw [List.lookup_eq_none_iff]
    rintro ⟨known, entry⟩ hmem
    rw [List.mem_filter] at hmem
    exact bne_iff_ne.mpr (Ne.symm (of_decide_eq_true hmem.2))
  have hfound : (store.put names bytes).entries.lookup names = some (.file bytes) := by
    rw [put, List.lookup_append, hold]
    simp only [List.lookup_cons_self, Option.none_or]
  rw [FileStore.entry?, if_neg (by simpa using h), hfound]
  rfl

/-- Something stands in every place on the way to a directory. -/
theorem exists_below_of_isDirectory {above names : List String} (h : store.isDirectory (.inside above) = true)
    (hnames : names ≠ []) (hfront : names <+: above) :
    (store.entries.any fun (known, _) => names.isPrefixOf known) = true := by
  have habove : above ≠ [] := fun hnil => hnames (List.prefix_nil.mp (hnil ▸ hfront))
  have hentry : store.entry? above = some .directory := of_decide_eq_true h
  have hbelow : ∃ entry ∈ store.entries, above <+: entry.1 := by
    rw [FileStore.entry?, if_neg (by simpa using habove)] at hentry
    cases hlookup : store.entries.lookup above with
    | some entry =>
      obtain ⟨before, after, hentries, _⟩ := List.lookup_eq_some_iff.mp hlookup
      exact ⟨(above, entry), hentries ▸ List.mem_append_right before List.mem_cons_self, List.prefix_rfl⟩
    | none =>
      rw [hlookup, Option.orElse_none] at hentry
      split_ifs at hentry with hany
      obtain ⟨entry, hmem, hstart⟩ := List.any_eq_true.mp hany
      exact ⟨entry, hmem, List.isPrefixOf_iff_prefix.mp hstart⟩
  obtain ⟨entry, hmem, hstart⟩ := hbelow
  exact List.any_eq_true.mpr ⟨entry, hmem, List.isPrefixOf_iff_prefix.mpr (hfront.trans hstart)⟩

/-- Every other place is as it was, if the directory of the new file is there. -/
theorem entry?_put_of_ne {above names : List String} {name : String} (h : store.isDirectory (.inside above) = true)
    (hne : names ≠ above ++ [name]) (bytes : List UInt8) :
    FileStore.entry? (store.put (above ++ [name]) bytes) names = store.entry? names := by
  by_cases hnil : names = []
  · rw [hnil]
    rfl
  have hlookup : (store.put (above ++ [name]) bytes).entries.lookup names = store.entries.lookup names := by
    have hother : (names == above ++ [name]) = false := beq_eq_false_iff_ne.mpr hne
    rw [put, List.lookup_append, lookup_filter_ne hne, List.lookup_cons, hother, List.lookup_nil, Option.or_none]
  -- a place in front of the new file is in front of its directory, where something was before
  have hany : ((store.put (above ++ [name]) bytes).entries.any fun (known, _) => names.isPrefixOf known) =
      store.entries.any fun (known, _) => names.isPrefixOf known := by
    rw [any_put, Bool.eq_iff_iff, Bool.or_eq_true, List.isPrefixOf_iff_prefix]
    constructor
    · rintro (hstart | hkept)
      · rcases List.prefix_concat_iff.mp hstart with heq | hfront
        · exact absurd heq hne
        · exact exists_below_of_isDirectory h hnil hfront
      · obtain ⟨entry, hmem, hstart⟩ := List.any_eq_true.mp hkept
        exact List.any_eq_true.mpr ⟨entry, (List.mem_filter.mp hmem).1, hstart⟩
    · intro hknown
      obtain ⟨entry, hmem, hstart⟩ := List.any_eq_true.mp hknown
      by_cases heq : entry.1 = above ++ [name]
      · exact .inl (heq ▸ List.isPrefixOf_iff_prefix.mp hstart)
      · exact .inr (List.any_eq_true.mpr ⟨entry, List.mem_filter.mpr ⟨hmem, decide_eq_true heq⟩, hstart⟩)
  rw [FileStore.entry?, FileStore.entry?, hlookup, hany]

/-! ## The way to a file -/

/-- What a path leads to that a file may be written to: a place in a directory, which is no directory
itself. -/
structure IsTarget (store : FileStore) (path : String) (above : List String) (name : String) : Prop where
  nonempty : path ≠ ""
  short : path.utf8ByteSize ≤ pathLimit
  directory : store.isDirectory (.inside above) = true
  file : store.isDirectory (.inside (above ++ [name])) = false
  shortName : name.utf8ByteSize ≤ nameLimit
  ordinary : name ≠ "" ∧ name ≠ "." ∧ name ≠ ".."
  way : ∃ names, pathNames path.toList = names ++ [name] ∧
    names.foldlM store.follow (start path.toList) = .ok (.inside above)

/-- The last name of a path that does not end with a slash is not empty. -/
theorem pathNames_eq_concat {path : List Char} (hnil : path ≠ []) (hlast : path.getLast? ≠ some '/') :
    ∃ names name, pathNames path = names ++ [name] ∧ name ≠ "" := by
  obtain ⟨parts, part, hparts⟩ :=
    (List.eq_nil_or_concat' (Text.splitAt (· == '/') path)).resolve_left (Text.splitAt_ne_nil _ _)
  refine ⟨parts.map String.ofList, String.ofList part, ?_, ?_⟩
  · rw [pathNames, hparts, List.map_append, List.map_singleton]
  · have hpart : (Text.splitAt (· == '/') path).getLast? ≠ some [] := by
      refine Text.getLast?_splitAt_ne hnil fun c hc => beq_eq_false_iff_ne.mpr ?_
      rintro rfl
      exact hlast hc
    rw [hparts, List.getLast?_concat] at hpart
    intro hempty
    exact hpart (congrArg some (String.ofList_eq_empty_iff.mp hempty))

/-- A path that can be written names an entry of a directory. -/
theorem isTarget_of_target {path : String} {names : List String} (h : store.target path = .ok names) :
    ∃ above name, names = above ++ [name] ∧ store.IsTarget path above name := by
  unfold target at h
  split_ifs at h with hempty hlong
  obtain ⟨directory, hway, h⟩ := bind_eq_ok_iff.mp h
  split_ifs at h with hdirectory hordinary hlongName
  cases directory with
  | outside => cases h
  | inside above =>
    dsimp only at h
    split_ifs at h with hfile
    cases h
    obtain ⟨hslash, hordinary⟩ := not_or.mp hordinary
    have hdrop : Text.dropEndWhile (· == '/') path.toList = path.toList := by
      refine Text.dropEndWhile_eq_self fun c hc => beq_eq_false_iff_ne.mpr ?_
      rintro rfl
      exact hslash hc
    have hchars : path.toList ≠ [] := fun hnil => hempty (String.toList_eq_nil_iff.mp hnil)
    obtain ⟨front, name, hnames, hname⟩ := pathNames_eq_concat hchars hslash
    have hlastName : (pathNames (Text.dropEndWhile (· == '/') path.toList)).getLast?.getD "" = name := by
      rw [hdrop, hnames, List.getLast?_concat, Option.getD_some]
    rw [hdrop, hnames, List.dropLast_concat] at hway
    rw [hlastName] at hfile hordinary hlongName ⊢
    refine ⟨above, name, rfl, ?_⟩
    exact {
      nonempty := hempty
      short := Nat.not_lt.mp hlong
      directory := by simpa using hdirectory
      file := Bool.eq_false_iff.mpr hfile
      shortName := Nat.not_lt.mp hlongName
      ordinary := ⟨hname, not_or.mp hordinary⟩
      way := ⟨front, hnames, hway⟩ }

/-- A directory is one after a file was written. -/
theorem isDirectory_put {above : List String} {name : String} (h : store.isDirectory (.inside above) = true)
    (hfile : store.isDirectory (.inside (above ++ [name])) = false) (bytes : List UInt8) (place : Place) :
    (store.put (above ++ [name]) bytes).isDirectory place = store.isDirectory place := by
  cases place with
  | outside => rfl
  | inside names =>
    by_cases hne : names = above ++ [name]
    · rw [hne, hfile, isDirectory, entry?_put_self (List.concat_ne_nil _ _)]
      rfl
    · rw [isDirectory, entry?_put_of_ne h hne, isDirectory]

/-- Where something was before, something still is. -/
theorem isSome_entry?_put {above names : List String} {name : String} (h : store.isDirectory (.inside above) = true)
    (bytes : List UInt8) (hsome : (store.entry? names).isSome) :
    (FileStore.entry? (store.put (above ++ [name]) bytes) names).isSome := by
  by_cases hne : names = above ++ [name]
  · rw [hne, entry?_put_self (List.concat_ne_nil _ _)]
    rfl
  · rwa [entry?_put_of_ne h hne]

/-- A name leads where it did before a file was written. -/
theorem follow_put {above : List String} {name : String} (h : store.isDirectory (.inside above) = true)
    (hfile : store.isDirectory (.inside (above ++ [name])) = false) (bytes : List UInt8) {place next : Place}
    {part : String} (hfollow : store.follow place part = .ok next) :
    (store.put (above ++ [name]) bytes).follow place part = .ok next := by
  unfold follow at hfollow ⊢
  rw [isDirectory_put h hfile]
  cases place with
  | outside => exact hfollow
  | inside names =>
    dsimp only at hfollow ⊢
    -- Each way to follow a part stays open: what was there is there, and no directory turned into a file.
    split_ifs at hfollow with hdirectory hstays hlong hup hroot hthere
    · rw [if_neg hdirectory, if_pos hstays]
      exact hfollow
    · rw [if_neg hdirectory, if_neg hstays, if_neg hlong, if_pos hup, if_pos hroot]
      exact hfollow
    · rw [if_neg hdirectory, if_neg hstays, if_neg hlong, if_pos hup, if_neg hroot]
      exact hfollow
    · rw [if_neg hdirectory, if_neg hstays, if_neg hlong, if_neg hup, if_pos (isSome_entry?_put h bytes hthere)]
      exact hfollow

/-- The way to a directory stays the same. -/
theorem foldlM_follow_put {above : List String} {name : String} (h : store.isDirectory (.inside above) = true)
    (hfile : store.isDirectory (.inside (above ++ [name])) = false) (bytes : List UInt8) {place last : Place}
    {parts : List String} (hway : parts.foldlM store.follow place = .ok last) :
    parts.foldlM (store.put (above ++ [name]) bytes).follow place = .ok last := by
  induction parts generalizing place with
  | nil => exact hway
  | cons part rest ih =>
    rw [List.foldlM_cons] at hway ⊢
    obtain ⟨next, hnext, hrest⟩ := bind_eq_ok_iff.mp hway
    rw [follow_put h hfile bytes hnext]
    exact ih hrest

/-- The path of a file that was written leads to it. -/
theorem locate_put {path name : String} {above : List String} (h : store.IsTarget path above name)
    (bytes : List UInt8) : (store.put (above ++ [name]) bytes).locate path = .ok (.inside (above ++ [name])) := by
  obtain ⟨names, hnames, hway⟩ := h.way
  obtain ⟨hempty, hdot, hdots⟩ := h.ordinary
  have hlast : (store.put (above ++ [name]) bytes).follow (.inside above) name = .ok (.inside (above ++ [name])) := by
    have hdirectory := isDirectory_put h.directory h.file bytes (.inside above)
    have hfound := entry?_put_self (List.concat_ne_nil name above) bytes store
    rw [h.directory] at hdirectory
    unfold follow
    simp only [hdirectory, Bool.not_true, Bool.false_eq_true, if_false, hempty, hdot, or_self,
      Nat.not_lt.mpr h.shortName, hdots, hfound, Option.isSome_some, if_true]
  rw [locate, if_neg h.nonempty, if_neg (Nat.not_lt.mpr h.short), hnames, List.foldlM_append,
    foldlM_follow_put h.directory h.file bytes hway, ok_bind, List.foldlM_cons, hlast]
  rfl

/-- After a text was written to a file, it is what is read from there, and every other place is as it was. -/
theorem read_of_write {path text : String} {changed : FileStore} (h : store.write path text = .ok changed) :
    changed.read path = .ok (Text.encode text.toList) ∧
      ∃ place, store.target path = .ok place ∧
        ∀ names, names ≠ place → changed.entry? names = store.entry? names := by
  cases htarget : store.target path with
  | error fault =>
    rw [write, htarget] at h
    cases h
  | ok place =>
    rw [write, htarget] at h
    cases h
    obtain ⟨above, name, rfl, hplace⟩ := isTarget_of_target htarget
    refine ⟨?_, _, rfl, fun names hne => entry?_put_of_ne hplace.directory hne _⟩
    rw [read, locate_put hplace, ok_bind]
    dsimp only
    rw [entry?_put_self (List.concat_ne_nil _ _)]

end FileStore

end CommandLine

end SqlInsert
