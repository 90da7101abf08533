import CriteriaSearch.Connection.Client
import CriteriaSearch.Proofs.PercentEncoding
import CriteriaSearch.Proofs.Successes
import Mathlib.Data.List.Flatten

/-!
# Paths of requests

A request goes to the path of the server's address with segments behind it.  A segment is lost where
it is a dot segment, and changed where it holds characters that addresses drop; what is left of it
may even take the segment before it away.  An empty segment is lost right behind the root.

`Url.Takes` says that none of this happens.  Then the path, read segment by segment, has the
segments of the address and those that were added (`Url.foldl_pushSegment`); otherwise it is too
short, as `Url.extent` tells, to have them in any way.  So an update addresses its document exactly
where its segments are taken as they are (`Connection.update_addresses_iff`).
-/

namespace CriteriaSearch

namespace Http.Url

variable {path : List Char}

/-! ## Segments of a path -/

/-- Whether a text is the path of an address. -/
structure IsPath (path : List Char) : Prop where
  head?_eq : path.head? = some '/'
  not_mem : '?' ∉ path

/-- The octets of the segments of a path. -/
def decodedSegments (path : List Char) : List (List Nat) :=
  ((Text.splitAt '/' path).drop 1).map percentDecode

/-- The octets of the segments of an address itself.  A slash at its end does not begin another. -/
def ownSegments (u : Url) : List (List Nat) :=
  decodedSegments (if u.path.getLast? = some '/' then u.path.dropLast else u.path)

/-- A path with a slash at its end. -/
def opened (path : List Char) : List Char :=
  if path = ['/'] then path else path ++ ['/']

/-- The segments that stay where another one is put behind a path: the root has none. -/
def heldSegments (path : List Char) : List (List Nat) :=
  if path = ['/'] then [] else decodedSegments path

/-- The number of octets of segments, with a slash before each. -/
def extent : List (List Nat) → Nat
  | [] => 0
  | segment :: rest => segment.length + 1 + extent rest

lemma extent_append (a b : List (List Nat)) : extent (a ++ b) = extent a + extent b := by
  induction a with
  | nil => exact (Nat.zero_add _).symm
  | cons segment rest ih => rw [List.cons_append, extent, extent, ih, ← Nat.add_assoc]

lemma extent_singleton (segment : List Nat) : extent [segment] = segment.length + 1 :=
  rfl

lemma IsPath.exists_eq (h : IsPath path) : ∃ rest, path = '/' :: rest := by
  cases path with
  | nil => cases h.head?_eq
  | cons c rest =>
    obtain rfl := Option.some.inj h.head?_eq
    exact ⟨rest, rfl⟩

lemma decodedSegments_slash (s : List Char) :
    decodedSegments ('/' :: s) = (Text.splitAt '/' s).map percentDecode := by
  simp [decodedSegments, Text.splitAt]

/-- The last segment is what stands behind the last slash. -/
lemma decodedSegments_append (path : List Char) {segment : List Char} (h : '/' ∉ segment) :
    decodedSegments (path ++ '/' :: segment) =
      decodedSegments path ++ [percentDecode segment] := by
  have hpos : 1 ≤ (Text.splitAt '/' path).length :=
    List.length_pos_iff.2 (Text.splitAt_ne_nil '/' path)
  rw [decodedSegments, decodedSegments, Text.splitAt_append_cons, Text.splitAt_of_not_mem h,
    List.drop_append_of_le_length hpos, List.map_append]
  rfl

/-- Pieces are read one by one. -/
lemma length_percentDecode_joinWith {pieces : List (List Char)} (h : pieces ≠ []) :
    (percentDecode (Text.joinWith ['/'] pieces)).length + 1 =
      extent (pieces.map percentDecode) := by
  induction pieces with
  | nil => exact absurd rfl h
  | cons piece rest ih =>
    cases rest with
    | nil => simp [Text.joinWith, extent]
    | cons next rest =>
      have hrest := ih (List.cons_ne_nil next rest)
      rw [Text.joinWith, List.append_assoc, List.singleton_append, percentDecode_append_slash,
        percentDecode_slash, List.length_append, List.length_cons, Nat.add_assoc, hrest]
      · change _ = (percentDecode piece).length + 1 + extent _
        omega
      · exact List.cons_ne_nil next rest

lemma extent_decodedSegments (rest : List Char) :
    extent (decodedSegments ('/' :: rest)) = (percentDecode ('/' :: rest)).length := by
  rw [decodedSegments_slash, percentDecode_slash, List.length_cons,
    ← length_percentDecode_joinWith (Text.splitAt_ne_nil '/' rest), Text.joinWith_splitAt]

/-! ## Paths that are continued -/

/-- A segment behind a path is its last one. -/
lemma decodedSegments_opened (path : List Char) {segment : List Char} (h : '/' ∉ segment) :
    decodedSegments (opened path ++ segment) = heldSegments path ++ [percentDecode segment] := by
  unfold opened heldSegments
  split
  · next hroot =>
    rw [hroot, List.singleton_append, decodedSegments_slash, Text.splitAt_of_not_mem h]
    rfl
  · rw [List.append_assoc, List.singleton_append, decodedSegments_append path h]

lemma extent_heldSegments_le (h : IsPath path) :
    extent (heldSegments path) ≤ (percentDecode path).length := by
  unfold heldSegments
  split
  · exact Nat.zero_le _
  · obtain ⟨rest, rfl⟩ := h.exists_eq
    exact Nat.le_of_eq (extent_decodedSegments rest)

lemma IsPath.append (h : IsPath path) {segment : List Char} (hsegment : '?' ∉ segment) :
    IsPath (path ++ segment) := by
  obtain ⟨rest, rfl⟩ := h.exists_eq
  refine ⟨rfl, ?_⟩
  rw [List.mem_append, not_or]
  exact ⟨h.not_mem, hsegment⟩

lemma IsPath.opened (h : IsPath path) : IsPath (opened path) := by
  unfold Url.opened
  split
  · exact h
  · exact h.append (by decide)

/-- What is read of a path and a segment behind it. -/
lemma length_percentDecode_opened_append (h : IsPath path) {segment : List Char}
    (hsegment : '/' ∉ segment) :
    (percentDecode (opened path ++ segment)).length =
      extent (heldSegments path) + (percentDecode segment).length + 1 := by
  have hextent : extent (decodedSegments (opened path ++ segment)) =
      (percentDecode (opened path ++ segment)).length := by
    obtain ⟨rest, hrest⟩ := h.opened.exists_eq
    rw [hrest, List.cons_append, extent_decodedSegments]
  rw [← hextent, decodedSegments_opened path hsegment, extent_append, extent_singleton,
    Nat.add_assoc]

/-! ## Dot segments -/

/-- A path is cut behind a slash, if it has one. -/
lemma dropSegment_eq (path : List Char) :
    dropSegment path = [] ∨ ∃ before rest, dropSegment path = before ++ ['/'] ∧
      path = before ++ '/' :: rest := by
  have hpath : path = path.reverse.reverse := (List.reverse_reverse path).symm
  unfold dropSegment
  generalize path.reverse = back at hpath ⊢
  subst hpath
  have hsplit := List.takeWhile_append_dropWhile (p := (· != '/')) (l := back)
  cases hdrop : back.dropWhile (· != '/') with
  | nil => exact .inl rfl
  | cons c more =>
    have hne : back.dropWhile (· != '/') ≠ [] := by
      rw [hdrop]
      exact List.cons_ne_nil c more
    obtain rfl : c = '/' := by
      have hhead := List.head_dropWhile_not (· != '/') hne
      simpa [hdrop] using hhead
    rw [hdrop] at hsplit
    refine .inr ⟨more.reverse, (back.takeWhile (· != '/')).reverse, List.reverse_cons, ?_⟩
    conv_lhs => rw [← hsplit]
    rw [List.reverse_append, List.reverse_cons, List.append_assoc]
    rfl

/-- A path is shortened to what is before a slash of it, if at all. -/
lemma shorten_eq (path : List Char) :
    shorten path = path ∨ ∃ before rest, shorten path = before ++ ['/'] ∧
      path = before ++ '/' :: rest := by
  unfold shorten
  dsimp only
  split
  · exact .inl rfl
  · next hkept =>
    rw [Bool.or_eq_true, not_or] at hkept
    rcases dropSegment_eq path.dropLast with hnil | ⟨before, rest, hparent, hbefore⟩
    · rw [hnil] at hkept
      exact absurd rfl hkept.1
    · obtain ⟨last, hlast⟩ := List.dropLast_prefix path
      refine .inr ⟨before, rest ++ last, hparent, ?_⟩
      rw [← hlast, hbefore, List.append_assoc]
      rfl

lemma IsPath.shorten (h : IsPath path) : IsPath (shorten path) := by
  rcases shorten_eq path with hsame | ⟨before, rest, hshort, hpath⟩
  · rwa [hsame]
  · rw [hshort]
    have hnot := h.not_mem
    rw [hpath, List.mem_append, not_or] at hnot
    refine ⟨?_, ?_⟩
    · have hhead := h.head?_eq
      rw [hpath] at hhead
      cases before with
      | nil => rfl
      | cons c before => exact hhead
    · rw [List.mem_append, not_or]
      exact ⟨hnot.1, by decide⟩

/-- Shortening a path takes octets away, if it changes anything. -/
lemma length_percentDecode_shorten_le (path : List Char) :
    (percentDecode (Url.shorten path)).length ≤ (percentDecode path).length := by
  rcases shorten_eq path with hsame | ⟨before, rest, hshort, hpath⟩
  · exact Nat.le_of_eq (by rw [hsame])
  · rw [hshort]
    conv_rhs => rw [hpath]
    rw [percentDecode_append_slash, percentDecode_append_slash, percentDecode_slash,
      percentDecode_slash, List.length_append, List.length_append]
    exact Nat.add_le_add_left (Nat.succ_le_succ (Nat.zero_le _)) _

lemma percentDecode_of_isSingleDot {segment : List Char} (h : isSingleDot segment = true) :
    percentDecode segment = octets "." := by
  have hforms : String.ofList segment ∈ [".", "%2e", "%2E"] := List.contains_iff_mem.1 h
  rw [← String.toList_ofList (l := segment)]
  generalize String.ofList segment = form at hforms
  simp only [List.mem_cons, List.not_mem_nil, or_false] at hforms
  rcases hforms with rfl | rfl | rfl <;> decide +kernel

lemma percentDecode_of_isDoubleDot {segment : List Char} (h : isDoubleDot segment = true) :
    percentDecode segment = octets ".." := by
  have hforms : String.ofList segment ∈
      ["..", ".%2e", ".%2E", "%2e.", "%2E.", "%2e%2e", "%2e%2E", "%2E%2e", "%2E%2E"] :=
    List.contains_iff_mem.1 h
  rw [← String.toList_ofList (l := segment)]
  generalize String.ofList segment = form at hforms
  simp only [List.mem_cons, List.not_mem_nil, or_false] at hforms
  rcases hforms with rfl | rfl | rfl | rfl | rfl | rfl | rfl | rfl | rfl <;> decide +kernel

/-- What is encoded reads back as one text only. -/
lemma eq_toList_of_percentDecode {l : List Char} {s : String}
    (h : percentDecode (percentEncode keptInSegment l) = octets s) : l = s.toList := by
  rw [percentDecode_percentEncode (by decide)] at h
  rw [← octets_injective h, String.toList_ofList]

lemma slash_not_mem_percentEncode (l : List Char) : '/' ∉ percentEncode keptInSegment l :=
  not_mem_percentEncode (by decide) (by decide) (by decide) l

lemma question_not_mem_percentEncode {keep : Char → Bool} (h : keep '?' = false) (l : List Char) :
    '?' ∉ percentEncode keep l :=
  not_mem_percentEncode h (by decide) (by decide) l

/-! ## Adding a segment -/

/-- Whether a text is no dot segment and holds nothing that addresses drop. -/
def isPlain (s : String) : Bool :=
  s != "." && s != ".." && s.toList.all fun c => !isDropped c

/-- What is left of a text in an address. -/
def undropped (s : String) : List Char :=
  s.toList.filter fun c => !isDropped c

lemma pushSegment_of_ne {s : String} (hdot : s ≠ ".") (hdots : s ≠ "..") :
    pushSegment path s =
      appendSegment (opened path) (percentEncode keptInSegment (undropped s)) := by
  rw [pushSegment, if_neg]
  · rfl
  · simp [hdot, hdots]

lemma isPlain_iff {s : String} :
    isPlain s = true ↔ s ≠ "." ∧ s ≠ ".." ∧ undropped s = s.toList := by
  simp [isPlain, undropped, List.filter_eq_self, and_assoc]

lemma octets_undropped_sublist (s : String) :
    (octets (String.ofList (undropped s))).Sublist (octets s) := by
  conv_rhs => rw [← String.ofList_toList (s := s)]
  rw [octets_ofList, octets_ofList]
  exact List.filter_sublist.flatMap _

lemma length_octets_undropped_lt {s : String} (h : undropped s ≠ s.toList) :
    (octets (String.ofList (undropped s))).length < (octets s).length := by
  have hsub := octets_undropped_sublist s
  refine Nat.lt_of_le_of_ne hsub.length_le fun hlength => h ?_
  have hsame : String.ofList (undropped s) = s := octets_injective (hsub.eq_of_length hlength)
  conv_rhs => rw [← hsame, String.toList_ofList]

/-- Whether a path takes segments as they are. -/
def Takes (path : List Char) (segments : List String) : Prop :=
  (∀ s ∈ segments, isPlain s = true) ∧ (path = ['/'] → segments.head? ≠ some "")

lemma IsPath.appendSegment (h : IsPath path) {segment : List Char} (hsegment : '?' ∉ segment) :
    IsPath (appendSegment path segment) := by
  unfold Url.appendSegment
  split
  · exact h.shorten
  · split
    · exact h
    · exact h.append hsegment

lemma IsPath.pushSegment (h : IsPath path) (s : String) : IsPath (pushSegment path s) := by
  by_cases hdots : s = "." ∨ s = ".."
  · rw [Url.pushSegment, if_pos (by simpa using hdots)]
    exact h
  · rw [not_or] at hdots
    rw [pushSegment_of_ne hdots.1 hdots.2]
    exact h.opened.appendSegment (question_not_mem_percentEncode (by decide) _)

lemma takes_singleton_iff {s : String} :
    Takes path [s] ↔ isPlain s = true ∧ (path = ['/'] → s ≠ "") := by
  simp [Takes]

lemma Takes.head {s : String} {rest : List String} (h : Takes path (s :: rest)) :
    Takes path [s] :=
  ⟨List.forall_mem_singleton.2 (h.1 s List.mem_cons_self), h.2⟩

/-- Behind a segment that is taken, an empty one is taken too. -/
lemma takes_cons_iff {s : String} {rest : List String} (h : Takes path [s]) {next : List Char}
    (hnext : next ≠ ['/']) : Takes path (s :: rest) ↔ Takes next rest := by
  constructor
  · exact fun hall => ⟨fun t ht => hall.1 t (List.mem_cons_of_mem s ht), fun hroot =>
      absurd hroot hnext⟩
  · exact fun hrest => ⟨List.forall_mem_cons.2 ⟨h.1 s List.mem_cons_self, hrest.1⟩, h.2⟩

/-- A path that is continued by something is not the root. -/
lemma opened_append_ne_root (h : IsPath path) {segment : List Char}
    (hne : path = ['/'] → segment ≠ []) : opened path ++ segment ≠ ['/'] := by
  obtain ⟨rest, rfl⟩ := h.exists_eq
  intro hroot
  have hlength := congrArg List.length hroot
  unfold opened at hlength
  split at hlength
  · next hpath =>
    have hpos := List.length_pos_iff.2 (hne hpath)
    rw [hpath, List.length_append] at hlength
    simp only [List.length_singleton] at hlength
    omega
  · simp at hlength

/-- **A segment that is taken is the last one of the path.** -/
theorem heldSegments_pushSegment (h : IsPath path) {s : String} (htakes : Takes path [s]) :
    pushSegment path s ≠ ['/'] ∧
      heldSegments (pushSegment path s) = heldSegments path ++ [octets s] := by
  obtain ⟨hplain, hroot⟩ := takes_singleton_iff.1 htakes
  obtain ⟨hdot, hdots, hsame⟩ := isPlain_iff.1 hplain
  have hsingle : ¬isSingleDot (percentEncode keptInSegment s.toList) = true := fun hform =>
    hdot (String.toList_inj.1 (eq_toList_of_percentDecode (percentDecode_of_isSingleDot hform)))
  have hdouble : ¬isDoubleDot (percentEncode keptInSegment s.toList) = true := fun hform =>
    hdots (String.toList_inj.1 (eq_toList_of_percentDecode (percentDecode_of_isDoubleDot hform)))
  have hread : percentDecode (percentEncode keptInSegment s.toList) = octets s := by
    rw [percentDecode_percentEncode (by decide), String.ofList_toList]
  have hne : path = ['/'] → percentEncode keptInSegment s.toList ≠ [] := by
    intro hpath hnil
    rw [hnil] at hread
    exact hroot hpath (octets_injective (hread.symm.trans octets_empty.symm))
  rw [pushSegment_of_ne hdot hdots, hsame, appendSegment, if_neg hdouble, if_neg hsingle]
  have hpushed := opened_append_ne_root h hne
  refine ⟨hpushed, ?_⟩
  conv_lhs => rw [heldSegments, if_neg hpushed]
  rw [decodedSegments_opened path (slash_not_mem_percentEncode s.toList), hread]

/-- What is read of a path with a segment behind it, dots resolved. -/
lemma length_percentDecode_appendSegment_le (h : IsPath path) {segment : List Char}
    (hsegment : '/' ∉ segment) :
    (percentDecode (appendSegment (opened path) segment)).length ≤
      extent (heldSegments path) + (percentDecode segment).length + 1 := by
  have hopened : (percentDecode (opened path)).length = extent (heldSegments path) + 1 := by
    have hlength := length_percentDecode_opened_append h (List.not_mem_nil (a := '/'))
    simpa [percentDecode] using hlength
  have hshort := length_percentDecode_shorten_le (opened path)
  unfold appendSegment
  split
  · omega
  · split
    · omega
    · exact Nat.le_of_eq (length_percentDecode_opened_append h hsegment)

/-- **A segment that is not taken leaves the path too short to have it.** -/
theorem extent_pushSegment_lt (h : IsPath path) {s : String} (htakes : ¬Takes path [s]) :
    extent (heldSegments (pushSegment path s)) <
      extent (heldSegments path) + extent [octets s] := by
  rw [extent_singleton]
  by_cases hdots : s = "." ∨ s = ".."
  · rw [pushSegment, if_pos (by simpa using hdots)]
    omega
  rw [not_or] at hdots
  by_cases hsame : undropped s = s.toList
  · have hplain := isPlain_iff.2 ⟨hdots.1, hdots.2, hsame⟩
    obtain ⟨rfl, rfl⟩ : path = ['/'] ∧ s = "" := by
      simpa [takes_singleton_iff, hplain] using htakes
    exact Nat.succ_pos _
  · have hpushed := extent_heldSegments_le (h.pushSegment s)
    have hlength := length_percentDecode_appendSegment_le h
      (slash_not_mem_percentEncode (undropped s))
    have hlost := length_octets_undropped_lt hsame
    rw [percentDecode_percentEncode (by decide)] at hlength
    rw [pushSegment_of_ne hdots.1 hdots.2] at hpushed ⊢
    omega

/-! ## Adding segments -/

lemma IsPath.foldl_pushSegment (h : IsPath path) (segments : List String) :
    IsPath (segments.foldl Url.pushSegment path) := by
  induction segments generalizing path with
  | nil => exact h
  | cons s rest ih => exact ih (h.pushSegment s)

/-- **A path that takes segments has them behind its own, and one that does not stays too short to
have them.** -/
theorem foldl_pushSegment (h : IsPath path) (segments : List String) :
    (Takes path segments ∧ heldSegments (segments.foldl pushSegment path) =
      heldSegments path ++ segments.map octets) ∨
    (¬Takes path segments ∧ extent (heldSegments (segments.foldl pushSegment path)) <
      extent (heldSegments path) + extent (segments.map octets)) := by
  induction segments generalizing path with
  | nil => exact .inl ⟨⟨List.forall_mem_nil _, fun _ h => by cases h⟩, (List.append_nil _).symm⟩
  | cons s rest ih =>
    have hrest := ih (h.pushSegment s)
    have hextent : extent ((s :: rest).map octets) =
        extent [octets s] + extent (rest.map octets) := extent_append [octets s] _
    rw [List.foldl_cons, hextent]
    by_cases htakes : Takes path [s]
    · obtain ⟨hpushed, hheld⟩ := heldSegments_pushSegment h htakes
      rw [takes_cons_iff htakes hpushed]
      rw [hheld, extent_append] at hrest
      rcases hrest with ⟨hall, hsame⟩ | ⟨hall, hless⟩
      · refine .inl ⟨hall, ?_⟩
        rw [hsame, List.append_assoc]
        rfl
      · exact .inr ⟨hall, by omega⟩
    · have hless := extent_pushSegment_lt h htakes
      refine .inr ⟨fun hall => htakes hall.head, ?_⟩
      rcases hrest with ⟨-, hsame⟩ | ⟨-, hrest⟩
      · rw [hsame, extent_append]
        omega
      · omega

lemma extent_foldl_pushSegment_le (h : IsPath path) (segments : List String) :
    extent (heldSegments (segments.foldl pushSegment path)) ≤
      extent (heldSegments path) + extent (segments.map octets) := by
  rcases foldl_pushSegment h segments with ⟨-, hsame⟩ | ⟨-, hless⟩
  · exact Nat.le_of_eq (by rw [hsame, extent_append])
  · exact Nat.le_of_lt hless

/-! ## The path of an address -/

/-- A slash at the end goes, but for the root. -/
lemma popEmpty_cases (path : List Char) :
    (∃ before, before ≠ [] ∧ path = before ++ ['/'] ∧ popEmpty path = before) ∨
      (popEmpty path = path ∧ (path.getLast? = some '/' → path = ['/'])) := by
  unfold popEmpty
  split
  · next hlast =>
    simp only [Bool.and_eq_true, decide_eq_true_eq] at hlast
    obtain ⟨before, rfl⟩ := List.getLast?_eq_some_iff.1 hlast.2
    refine .inl ⟨before, ?_, rfl, List.dropLast_concat⟩
    rintro rfl
    exact absurd hlast.1 (by decide)
  · next hlast =>
    refine .inr ⟨rfl, fun hslash => ?_⟩
    obtain ⟨before, rfl⟩ := List.getLast?_eq_some_iff.1 hslash
    cases before with
    | nil => rfl
    | cons c before =>
      have hlong : 1 < (c :: before ++ ['/']).length := by simp
      exact absurd (Bool.and_eq_true_iff.2 ⟨decide_eq_true hlong, decide_eq_true hslash⟩) hlast

lemma IsPath.popEmpty (h : IsPath path) : IsPath (popEmpty path) := by
  rcases popEmpty_cases path with ⟨before, hne, rfl, hbefore⟩ | ⟨hsame, -⟩
  · rw [hbefore]
    have hnot := h.not_mem
    rw [List.mem_append, not_or] at hnot
    refine ⟨?_, hnot.1⟩
    rw [← h.head?_eq, List.head?_append_of_ne_nil _ hne]
  · rwa [hsame]

/-- Nothing but the root is left of a path that is the root or has one empty segment. -/
lemma popEmpty_eq_root_iff : popEmpty path = ['/'] ↔ path = ['/'] ∨ path = ['/', '/'] := by
  constructor
  · intro hroot
    rcases popEmpty_cases path with ⟨before, -, rfl, hbefore⟩ | ⟨hsame, -⟩
    · rw [hbefore] at hroot
      exact .inr (congrArg (· ++ ['/']) hroot)
    · exact .inl (hsame.symm.trans hroot)
  · rintro (rfl | rfl) <;> rfl

/-- Without its slash at the end, the path of an address holds the address's own segments, unless
nothing but the root is left of an empty segment. -/
lemma heldSegments_popEmpty {u : Url} (hne : u.path ≠ ['/', '/']) :
    heldSegments (Url.popEmpty u.path) = ownSegments u := by
  unfold ownSegments
  by_cases hpath : u.path = ['/']
  · rw [hpath]
    rfl
  have hroot : Url.popEmpty u.path ≠ ['/'] := by
    rw [Ne, popEmpty_eq_root_iff, not_or]
    exact ⟨hpath, hne⟩
  rw [heldSegments, if_neg hroot]
  rcases popEmpty_cases u.path with ⟨before, -, hslash, hbefore⟩ | ⟨hsame, hlast⟩
  · rw [hbefore, hslash, List.getLast?_concat, if_pos rfl, List.dropLast_concat]
  · rw [hsame, if_neg fun hslash => hpath (hlast hslash)]

/-- An address with nothing but an empty segment does not hold it. -/
lemma extent_heldSegments_popEmpty_lt {u : Url} (h : u.path = ['/', '/']) :
    extent (heldSegments (Url.popEmpty u.path)) < extent (ownSegments u) := by
  rw [ownSegments, h]
  exact Nat.zero_lt_one

/-- Whether an address takes segments. -/
lemma takes_popEmpty_iff {u : Url} (segments : List String) {action : String}
    (hplain : isPlain action = true) (hne : action ≠ "") :
    Takes (popEmpty u.path) (segments ++ [action]) ∧ u.path ≠ ['/', '/'] ↔
      (∀ s ∈ segments, isPlain s = true) ∧ u.path ≠ ['/', '/'] ∧
        (segments.head? = some "" → u.path ≠ ['/']) := by
  have hhead : (segments ++ [action]).head? = some "" ↔ segments.head? = some "" := by
    cases segments with
    | nil => simp [hne]
    | cons s rest => rfl
  rw [Takes, popEmpty_eq_root_iff, List.forall_mem_append, List.forall_mem_singleton, Ne, hhead]
  constructor
  · rintro ⟨⟨⟨hsegments, -⟩, hempty⟩, hslashes⟩
    exact ⟨hsegments, hslashes, fun hfirst hroot => hempty (.inl hroot) hfirst⟩
  · rintro ⟨hsegments, hslashes, hempty⟩
    refine ⟨⟨⟨hsegments, hplain⟩, ?_⟩, hslashes⟩
    rintro (hroot | hroot) hfirst
    · exact hempty hfirst hroot
    · exact hslashes hroot

/-- **An address with segments and an action behind it reads as its own segments and those exactly
where each segment is plain, an empty one does not come first behind the root, and the address is
not itself an empty segment.** -/
theorem decodedSegments_withSegments_iff {u : Url} (h : IsPath u.path) (segments : List String)
    {action : String} (hplain : isPlain action = true) (hne : action ≠ "") :
    decodedSegments (u.withSegments (segments ++ [action])).path =
        ownSegments u ++ (segments ++ [action]).map octets ↔
      (∀ s ∈ segments, isPlain s = true) ∧ u.path ≠ ['/', '/'] ∧
        (segments.head? = some "" → u.path ≠ ['/']) := by
  rw [← takes_popEmpty_iff segments hplain hne]
  have hbase : IsPath (popEmpty u.path) := h.popEmpty
  have hcases := foldl_pushSegment hbase (segments ++ [action])
  have hle := extent_foldl_pushSegment_le hbase (segments ++ [action])
  have hheld : heldSegments (u.withSegments (segments ++ [action])).path =
      decodedSegments (u.withSegments (segments ++ [action])).path := by
    -- The action is taken, whatever became of the segments, so the path does not end at the root.
    have htakes : Takes (segments.foldl pushSegment (popEmpty u.path)) [action] :=
      takes_singleton_iff.2 ⟨hplain, fun _ => hne⟩
    have hroot := (heldSegments_pushSegment (hbase.foldl_pushSegment segments) htakes).1
    rw [withSegments, List.foldl_concat]
    exact if_neg hroot
  rw [← hheld]
  change heldSegments ((segments ++ [action]).foldl pushSegment (popEmpty u.path)) = _ ↔ _
  by_cases hslashes : u.path = ['/', '/']
  · have hless := extent_heldSegments_popEmpty_lt hslashes
    refine iff_of_false (fun hsame => ?_) fun hall => hall.2 hslashes
    rw [hsame, extent_append] at hle
    omega
  · rw [heldSegments_popEmpty hslashes] at hcases
    rcases hcases with ⟨htakes, htaken⟩ | ⟨htakes, hless⟩
    · exact iff_of_true htaken ⟨htakes, hslashes⟩
    · refine iff_of_false (fun hsame => ?_) fun hall => htakes hall.1
      rw [hsame, extent_append] at hless
      exact Nat.lt_irrefl _ hless

/-! ## Addresses that are read -/

lemma isPath_resolvePath (s : List Char) : IsPath (resolvePath s) := by
  unfold resolvePath
  dsimp only
  generalize Text.splitAt '/' _ = pieces
  have hsegment : ∀ segment ∈ pieces.map (percentEncode keptInPath), '?' ∉ segment := by
    intro segment hmem
    obtain ⟨piece, -, rfl⟩ := List.mem_map.1 hmem
    exact question_not_mem_percentEncode (by decide) piece
  generalize pieces.map (percentEncode keptInPath) = segments at hsegment
  refine IsPath.appendSegment ?_ ?_
  · refine List.foldlRecOn segments.dropLast _ ⟨rfl, by decide⟩ fun path hpath segment hmem => ?_
    have hnext := hpath.appendSegment (hsegment segment (List.dropLast_subset _ hmem))
    split
    · exact hnext
    · exact hnext.append (by decide)
  · cases hlast : segments.getLast? with
    | none => exact List.not_mem_nil
    | some last => exact hsegment last (List.mem_of_getLast? hlast)

lemma isPath_of_ofText? {s : String} {u : Url} (h : ofText? s = .ok u) : IsPath u.path := by
  unfold ofText? ofAuthority? at h
  dsimp only at h
  rw [bind_eq_ok_iff] at h
  obtain ⟨⟨username, password, host⟩, -, h⟩ := h
  dsimp only at h
  rw [bind_eq_ok_iff] at h
  obtain ⟨_, -, h⟩ := h
  obtain rfl := pure_eq_ok_iff.1 h
  dsimp only
  exact isPath_resolvePath _

/-- The path of a target is what stands before its question mark. -/
lemma takeWhile_target {u : Url} (h : IsPath u.path) :
    u.target.takeWhile (· != '?') = u.path := by
  have hpath : ∀ c ∈ u.path, (c != '?') = true := by
    intro c hc
    rw [bne_iff_ne]
    rintro rfl
    exact h.not_mem hc
  rw [target, List.takeWhile_append_of_pos hpath]
  cases u.query with
  | none => exact List.append_nil _
  | some query => exact List.append_nil _

lemma IsPath.withSegments {u : Url} (h : IsPath u.path) (segments : List String) :
    IsPath (u.withSegments segments).path :=
  h.popEmpty.foldl_pushSegment segments

end Http.Url

namespace Connection

open Http.Url (IsPath decodedSegments ownSegments isPlain)

variable {c : Connection} {config : ConnectionConfig}

lemma isPath_of_ofConfig? (h : ofConfig? config = .ok c) : IsPath c.url.path := by
  unfold ofConfig? at h
  split at h
  · cases h
  · split at h
    · cases h
    · next url hurl =>
      obtain rfl := Except.ok.inj h
      exact Http.Url.isPath_of_ofText? hurl

/-- The octets of the segments that a request addresses. -/
def addressed (request : Http.Request) : List (List Nat) :=
  decodedSegments (request.target.toList.takeWhile (· != '?'))

lemma addressed_httpRequest (h : IsPath c.url.path) (method : Http.Method) (segments : List String)
    (body : Option Json) :
    addressed (c.httpRequest method segments body) =
      decodedSegments (c.url.withSegments segments).path := by
  rw [addressed, httpRequest, String.toList_ofList,
    Http.Url.takeWhile_target (h.withSegments segments)]

/-- **An update sends one request, and it addresses its document behind the segments of the server's
address exactly where no segment is a dot segment or holds characters that addresses drop, and none
is lost behind a root.** -/
theorem update_addresses_iff (h : ofConfig? config = .ok c) (index typeName id : String)
    (partialSource : Record) (server : Http.Playback) :
    ∃ request, (c.answer ⟨index, typeName⟩ (.update id partialSource) server).2.sent =
        request :: server.sent ∧
      (addressed request =
          ownSegments c.url ++ [index, typeName, id, "_update"].map Http.octets ↔
        (∀ s ∈ [index, typeName, id], isPlain s = true) ∧ c.url.path ≠ ['/', '/'] ∧
          (index = "" → c.url.path ≠ ['/'])) := by
  have hpath := isPath_of_ofConfig? h
  refine ⟨c.httpRequest .post [index, typeName, id, "_update"]
    (some (.obj [("doc", .obj partialSource)])), ?_, ?_⟩
  · obtain ⟨responses, sent⟩ := server
    cases responses <;> rfl
  · have hsegments := Http.Url.decodedSegments_withSegments_iff hpath
      [index, typeName, id] (show isPlain "_update" = true by decide) (by decide)
    rw [addressed_httpRequest hpath]
    simpa using hsegments

/-- An identifier with separators, behind the path of an address. -/
theorem update_addresses_iff_separators :
    let config : ConnectionConfig := { hosts := ["http://[::1]:9200/es"] }
    let c : Connection :=
      { url := { path := "/es".toList }, indexName := "searchlayer" }
    let update := c.answer ⟨"app", "ticket"⟩ (.update "a/b" [("n", .str "1")]) ⟨[], []⟩
    ofConfig? config = .ok c ∧ ownSegments c.url = [Http.octets "es"] ∧
      update.2.sent.map Http.Request.target = ["/es/app/ticket/a%2Fb/_update"] ∧
      ∃ request, update.2.sent = [request] ∧ addressed request =
        ownSegments c.url ++ ["app", "ticket", "a/b", "_update"].map Http.octets := by
  intro config c update
  have hconfig : ofConfig? config = .ok c := by
    rfl
  have hplain : ∀ s ∈ ["app", "ticket", "a/b"], isPlain s = true := by
    decide
  obtain ⟨request, hsent, haddressed⟩ :=
    update_addresses_iff hconfig "app" "ticket" "a/b" [("n", .str "1")] ⟨[], []⟩
  refine ⟨hconfig, ?_, ?_, request, hsent, haddressed.2 ⟨hplain, ?_, ?_⟩⟩
  · decide +kernel
  · decide +kernel
  · decide
  · decide

/-- A tab in an identifier is dropped, so the request goes to another document. -/
theorem update_drops_tab :
    let config : ConnectionConfig := { hosts := ["http://[::1]:9200"] }
    let c : Connection := { url := {}, indexName := "searchlayer" }
    let update := c.answer ⟨"app", "item"⟩ (.update "a\tb" [("n", .str "1")]) ⟨[], []⟩
    ofConfig? config = .ok c ∧
      update.2.sent.map Http.Request.target = ["/app/item/ab/_update"] ∧
      update.2.sent.map addressed = [["app", "item", "ab", "_update"].map Http.octets] ∧
      ownSegments c.url ++ ["app", "item", "a\tb", "_update"].map Http.octets ≠
        ["app", "item", "ab", "_update"].map Http.octets := by
  intro config c update
  refine ⟨?_, ?_, ?_, ?_⟩
  · rfl
  · decide +kernel
  · decide +kernel
  · decide +kernel

end Connection

end CriteriaSearch
