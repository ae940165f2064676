import Mathlib.Data.List.TakeWhile
import Rollout.Proofs.Outcomes
import Rollout.Proofs.Percent

/-!
# Rollout.Proofs.Address

Where a request goes whose path is appended to the URL of a host.

* `joined`, `resolveSteps_joined` — a path of segments, and what becomes of it when the steps up in it
  are taken;
* `IsOrigin` — the text of a URL that ends with its authority;
* `addressed_of_segments` — a path of segments that is appended to it leads to the segments that
  remain when the steps up are taken, and has no query;
* `isUnaddressed_of_ofText` — why a text is no address.
-/

namespace Rollout.Url

/-! ## segments -/

/-- Goes on from a place: up one step, nowhere, or to a segment. -/
def stepTo (place : List (List Char)) (segment : List Char) : List (List Char) :=
  if segment = ['.'] then place
  else if segment = ['.', '.'] then (if place = [[]] then place else place.dropLast)
  else place ++ [segment]

/-- A path of segments, each with a slash in front. -/
def joined (segments : List (List Char)) : List Char := segments.flatMap ('/' :: ·)

theorem joined_cons (s : List Char) (segments : List (List Char)) :
    joined (s :: segments) = '/' :: s ++ joined segments := by
  rw [joined, List.flatMap_cons]
  rfl

theorem joined_append (a b : List (List Char)) : joined (a ++ b) = joined a ++ joined b :=
  List.flatMap_append

/-- A segment holds none of the signs that mean something in a URL. -/
def IsClean (s : List Char) : Prop := ∀ c ∈ s, c ∉ ['/', '?', '#', '%']

instance (s : List Char) : Decidable (IsClean s) :=
  List.decidableBAll (fun c => c ∉ ['/', '?', '#', '%']) s

/-- Clean segments keep the delimiters of a URL out of the path. -/
theorem not_mem_joined {segments : List (List Char)} (h : ∀ s ∈ segments, IsClean s) {c : Char}
    (hc : c ∈ ['?', '#', '%']) : c ∉ joined segments := by
  intro hmem
  obtain ⟨s, hs, hcs⟩ := List.mem_flatMap.mp hmem
  obtain rfl | hcs := List.mem_cons.mp hcs
  · simp at hc
  · exact h s hs c hcs (.tail _ hc)

theorem intercalate_cons (s : List Char) (segments : List (List Char)) :
    ['/'].intercalate (s :: segments) = s ++ joined segments := by
  induction segments generalizing s with
  | nil => simp [joined]
  | cons s' segments ih =>
      rw [List.intercalate_cons_cons, ih, joined_cons, List.append_assoc, List.singleton_append,
        List.cons_append]

/-- Resolving a path takes one step for each of its segments. -/
theorem resolveSteps_joined {segments : List (List Char)} (h : ∀ s ∈ segments, '/' ∉ s) :
    resolveSteps (joined segments) = ['/'].intercalate (segments.foldl stepTo [[]]) := by
  have hsplit : (joined segments).splitOn '/' = [] :: segments := by
    rw [← List.nil_append (joined segments), ← intercalate_cons]
    refine List.splitOn_intercalate '/' (fun s hs => ?_) (List.cons_ne_nil _ _)
    obtain rfl | hs := List.mem_cons.mp hs
    · exact List.not_mem_nil
    · exact h s hs
  change ['/'].intercalate (((joined segments).splitOn '/').foldl stepTo []) = _
  rw [hsplit, List.foldl_cons]
  rfl

/-- A segment that leads on. -/
def LeadsOn (s : List Char) : Prop := s ≠ ['.'] ∧ s ≠ ['.', '.']

instance (s : List Char) : Decidable (LeadsOn s) := inferInstanceAs (Decidable (_ ∧ _))

/-- A segment that leads on goes to the end of the place. -/
theorem stepTo_of_leadsOn {s : List Char} (h : LeadsOn s) (place : List (List Char)) :
    stepTo place s = place ++ [s] := by
  rw [stepTo, if_neg h.1, if_neg h.2]

/-- So do several of them, one after the other. -/
theorem foldl_stepTo_of_leadsOn {segments : List (List Char)} (h : ∀ s ∈ segments, LeadsOn s)
    (place : List (List Char)) : segments.foldl stepTo place = place ++ segments := by
  induction segments generalizing place with
  | nil => simp
  | cons s segments ih =>
      rw [List.foldl_cons, stepTo_of_leadsOn (h s (.head _)), ih fun s hs => h s (.tail _ hs),
        List.append_assoc, List.singleton_append]

/-- Steps lead through no other segments. -/
theorem isClean_foldl_stepTo {segments : List (List Char)} (h : ∀ s ∈ segments, IsClean s)
    (place : List (List Char)) (hplace : ∀ s ∈ place, IsClean s) :
    ∀ s ∈ segments.foldl stepTo place, IsClean s := by
  induction segments generalizing place with
  | nil => exact hplace
  | cons segment segments ih =>
      refine ih (fun s hs => h s (.tail _ hs)) _ fun s hs => ?_
      rw [stepTo] at hs
      split at hs
      · exact hplace s hs
      split at hs
      · split at hs
        · exact hplace s hs
        · exact hplace s (List.dropLast_subset _ hs)
      · obtain hs | hs := List.mem_append.mp hs
        · exact hplace s hs
        · obtain rfl := List.mem_singleton.mp hs
          exact h s (.head _)

/-- A step up takes a segment back. -/
theorem stepTo_up {place : List (List Char)} (h : place ≠ []) (s : List Char) :
    stepTo (place ++ [s]) ['.', '.'] = place := by
  have hroot : place ++ [s] ≠ [[]] := by
    intro heq
    have hlength := congrArg List.length heq
    have hpos := List.length_pos_iff.mpr h
    simp only [List.length_append, List.length_singleton] at hlength
    omega
  rw [stepTo, if_neg (by decide), if_pos rfl, if_neg hroot, List.dropLast_concat]

/-! ## URLs -/

/-- The text of a URL that ends with its authority. -/
def IsOrigin (base : String) : Prop :=
  ∃ (first : Char) (scheme authority : List Char),
    base.toList = (first :: scheme) ++ ':' :: '/' :: '/' :: authority ∧ first.isAlpha = true ∧
      (∀ c ∈ first :: scheme, c.isAlphanum ∨ c = '+' ∨ c = '-' ∨ c = '.') ∧
      ∀ c ∈ authority, c ∉ ['/', '?', '#']

/-- A host, and perhaps a port, make up such a URL. -/
theorem isOrigin_https {base : String} (authority : String) (hbase : base = "https://" ++ authority)
    (h : authority.toList.all (fun c => c ∉ ['/', '?', '#']) = true) : IsOrigin base := by
  have hscheme : "https://".toList = 'h' :: "ttps".toList ++ [':', '/', '/'] := by decide +kernel
  have hword : ('h' :: "ttps".toList).all
      (fun c => c.isAlphanum ∨ c = '+' ∨ c = '-' ∨ c = '.') = true := by decide +kernel
  refine ⟨'h', "ttps".toList, authority.toList, ?_, by decide, fun c hc =>
    of_decide_eq_true (List.all_eq_true.mp hword c hc), fun c hc =>
    of_decide_eq_true (List.all_eq_true.mp h c hc)⟩
  rw [hbase, String.toList_append, hscheme]
  simp

/-- The scheme of a URL ends at the first colon. -/
theorem schemeAndRest_of_scheme {first : Char} {scheme : List Char} (hfirst : first.isAlpha = true)
    (hscheme : ∀ c ∈ first :: scheme, c.isAlphanum ∨ c = '+' ∨ c = '-' ∨ c = '.')
    (rest : List Char) :
    schemeAndRest (first :: scheme ++ ':' :: rest) = (first :: scheme, rest) := by
  have hword : (first :: scheme ++ ':' :: rest).takeWhile
      (fun c => c.isAlphanum ∨ c = '+' ∨ c = '-' ∨ c = '.') = first :: scheme := by
    rw [List.takeWhile_append_of_pos fun c hc => decide_eq_true (hscheme c hc),
      List.takeWhile_cons_of_neg (by decide), List.append_nil]
  unfold schemeAndRest
  simp only [hword]
  rw [List.drop_left' rfl]
  simp [hfirst]

theorem after?_of_not_mem {c : Char} {cs : List Char} (h : c ∉ cs) : after? c cs = none := by
  have hdrop : cs.dropWhile (· ≠ c) = [] := by
    rw [List.dropWhile_eq_nil_iff]
    intro x hx
    rw [decide_eq_true_eq]
    rintro rfl
    exact h hx
  rw [after?, hdrop]

/-- A part of a URL that can be encoded is. -/
theorem eq_encode_of_encoded {allowed : Char → Bool} {part shown : List Char}
    (h : encoded allowed part = .ok shown) : shown = encode allowed part := by
  unfold encoded at h
  split at h
  · cases h
  · exact (Except.ok.inj h).symm

/-- The target of a URL with a scheme, an authority, and a path without a query. -/
theorem exists_of_ofText {url : String} {scheme authority path : List Char} {t : Target}
    (hurl : schemeAndRest url.toList = (scheme, '/' :: '/' :: (authority ++ '/' :: path)))
    (hscheme : scheme ≠ []) (hauthority : ∀ c ∈ authority, c ∉ ['/', '?', '#'])
    (hpath : '?' ∉ '/' :: path ∧ '#' ∉ '/' :: path) (h : Target.ofText url = .ok t) :
    ∃ user host port, t = Target.fromRoot {
      scheme := scheme.map Char.toLower, user, host, port,
      path := encode isPathChar (resolveSteps ('/' :: path)), query := none, fragment := none } := by
  have htake : (authority ++ '/' :: path).takeWhile (· ∉ ['/', '?', '#']) = authority := by
    rw [List.takeWhile_append_of_pos fun c hc => decide_eq_true (hauthority c hc),
      List.takeWhile_cons_of_neg (by decide), List.append_nil]
  have hdrop : (authority ++ '/' :: path).dropWhile (· ∉ ['/', '?', '#']) = '/' :: path := by
    rw [List.dropWhile_append_of_pos fun c hc => decide_eq_true (hauthority c hc),
      List.dropWhile_cons_of_neg (by decide)]
  have hneither (c : Char) (hc : c ∈ '/' :: path) : c ≠ '?' ∧ c ≠ '#' :=
    ⟨fun heq => hpath.1 (heq ▸ hc), fun heq => hpath.2 (heq ▸ hc)⟩
  have hall : ('/' :: path).takeWhile (fun c => c ≠ '?' ∧ c ≠ '#') = '/' :: path :=
    List.takeWhile_eq_self_iff.mpr fun c hc => decide_eq_true (hneither c hc)
  have hquery : ('/' :: path).takeWhile (· ≠ '#') = '/' :: path :=
    List.takeWhile_eq_self_iff.mpr fun c hc => decide_eq_true (hneither c hc).2
  unfold Target.ofText at h
  simp only [hurl, htake, hdrop, hall, hquery, after?_of_not_mem hpath.1,
    after?_of_not_mem hpath.2] at h
  split at h
  case isTrue => cases h
  case isFalse =>
    obtain ⟨user, -, h⟩ := Outcome.bind_eq_ok_iff.mp h
    obtain ⟨host, -, h⟩ := Outcome.bind_eq_ok_iff.mp h
    obtain ⟨port, -, h⟩ := Outcome.bind_eq_ok_iff.mp h
    split at h
    case isTrue => cases h
    case isFalse =>
      rw [if_pos (.inl hscheme)] at h
      obtain ⟨shown, hshown, h⟩ := Outcome.bind_eq_ok_iff.mp h
      obtain rfl := eq_encode_of_encoded hshown
      cases h
      exact ⟨user, host, port, rfl⟩

theorem encode_cons (allowed : Char → Bool) (c : Char) (cs : List Char) :
    encode allowed (c :: cs) = encode allowed [c] ++ encode allowed cs := by
  simp [encode]

/-- What begins with one slash does so when it is encoded. -/
theorem dropSlashes_encode {c : Char} (hc : c ≠ '/') (cs : List Char) :
    '/' :: (encode isPathChar ('/' :: c :: cs)).dropWhile (· = '/') =
      encode isPathChar ('/' :: c :: cs) := by
  have hslash : encode isPathChar ('/' :: c :: cs) = '/' :: encode isPathChar (c :: cs) := by
    rw [encode_cons]
    rfl
  have hhead : ∃ x rest, encode isPathChar (c :: cs) = x :: rest ∧ x ≠ '/' := by
    rw [encode, List.flatMap_cons]
    split
    · exact ⟨c, _, rfl, hc⟩
    · have hpos : 0 < (bytesOf [c]).length := by
        rw [bytesOf_eq_flatMap, List.flatMap_singleton, String.length_utf8EncodeChar]
        exact c.utf8Size_pos
      obtain ⟨b, bytes, hbytes⟩ := List.exists_cons_of_length_pos hpos
      rw [hbytes]
      exact ⟨'%', _, rfl, by decide⟩
  obtain ⟨x, rest, hx, hne⟩ := hhead
  rw [hslash, hx, List.dropWhile_cons_of_pos (by simp), List.dropWhile_cons_of_neg (by simpa using hne)]

/-- A target whose path begins with one slash keeps its path and its query, with or without a host. -/
theorem fromRoot_of_path {t : Target} {c : Char} {cs : List Char} (hc : c ≠ '/')
    (h : t.path = encode isPathChar ('/' :: c :: cs)) :
    t.fromRoot.path = t.path ∧ t.fromRoot.query = t.query := by
  unfold Target.fromRoot
  split
  · exact ⟨rfl, rfl⟩
  · rw [h, dropSlashes_encode hc]
    exact ⟨rfl, rfl⟩

/-- A path of segments that is appended to the URL of a host leads to the segments that remain when
the steps up in it are taken. -/
theorem addressed_of_segments {base : String} (hbase : IsOrigin base)
    {segments : List (List Char)} (hsegments : ∀ s ∈ segments, IsClean s)
    {first : List Char} {rest : List (List Char)}
    (hsteps : segments.foldl stepTo [[]] = [] :: first :: rest) (hfirst : first ≠ [])
    {t : Target} (h : Target.ofText (base ++ String.ofList (joined segments)) = .ok t) :
    t.decodedPath = String.ofList (joined (first :: rest)) ∧ t.query = none := by
  obtain ⟨letter, scheme, authority, htext, hletter, hscheme, hauthority⟩ := hbase
  obtain ⟨path, hpath⟩ : ∃ path, joined segments = '/' :: path := by
    cases segments with
    | nil => cases hsteps
    | cons s segments => exact ⟨s ++ joined segments, joined_cons s segments⟩
  have hremain : ∀ s ∈ first :: rest, IsClean s := by
    have hall := isClean_foldl_stepTo hsegments [[]] (by simp [IsClean])
    rw [hsteps] at hall
    exact fun s hs => hall s (.tail _ hs)
  have hurl : schemeAndRest (base ++ String.ofList (joined segments)).toList =
      (letter :: scheme, '/' :: '/' :: (authority ++ '/' :: path)) := by
    rw [String.toList_append, String.toList_ofList, htext, hpath]
    simpa using schemeAndRest_of_scheme hletter hscheme ('/' :: '/' :: (authority ++ '/' :: path))
  have hmarks : '?' ∉ '/' :: path ∧ '#' ∉ '/' :: path := by
    rw [← hpath]
    exact ⟨not_mem_joined hsegments (by decide), not_mem_joined hsegments (by decide)⟩
  obtain ⟨user, host, port, rfl⟩ :=
    exists_of_ofText hurl (List.cons_ne_nil _ _) hauthority hmarks h
  have hresolved : resolveSteps ('/' :: path) = joined (first :: rest) := by
    rw [← hpath, resolveSteps_joined fun s hs hslash => hsegments s hs '/' hslash (.head _), hsteps,
      intercalate_cons, List.nil_append]
  obtain ⟨c, cs, rfl⟩ := List.exists_cons_of_ne_nil hfirst
  have hc : c ≠ '/' := fun heq => hremain _ (.head _) c (.head _) (heq ▸ .head _)
  rw [hresolved]
  obtain ⟨hkept, hquery⟩ := fromRoot_of_path (t := ⟨(letter :: scheme).map Char.toLower, user, host,
    port, encode isPathChar (joined ((c :: cs) :: rest)), none, none⟩) hc rfl
  refine ⟨?_, hquery⟩
  have hsome : joined ((c :: cs) :: rest) = '/' :: c :: (cs ++ joined rest) := rfl
  have hdecode : decode (encode isPathChar (joined ((c :: cs) :: rest))) =
      joined ((c :: cs) :: rest) :=
    decode_encode fun hmem => absurd hmem (not_mem_joined hremain (by decide))
  unfold Target.decodedPath
  rw [hkept, if_neg, hdecode]
  rw [hsome, encode_cons]
  exact List.cons_ne_nil _ _

/-! ## texts that are no address -/

/-- A failure to make out an address: it is none, or it holds surrogates. -/
def IsUnaddressed (e : Failure) : Prop := e = .badAddress ∨ e = .badHeader

/-- What fails for want of an address only. -/
def OnlyUnaddressed {α : Type} (a : Outcome α) : Prop := ∀ e, a = .error e → IsUnaddressed e

section

variable {α β : Type}

theorem onlyUnaddressed_ok (a : α) : OnlyUnaddressed (.ok a) := fun _ h => nomatch h

theorem onlyUnaddressed_error {e : Failure} (he : IsUnaddressed e) :
    OnlyUnaddressed (.error e : Outcome α) := by
  intro e' h
  cases h
  exact he

/-- Two outcomes in a row that can only fail for an address. -/
theorem OnlyUnaddressed.bind {a : Outcome α} {f : α → Outcome β} (ha : OnlyUnaddressed a)
    (hf : ∀ x, OnlyUnaddressed (f x)) : OnlyUnaddressed (a >>= f) := by
  intro e h
  cases a with
  | ok x => exact hf x e h
  | error e' =>
      cases h
      exact ha _ rfl

theorem OnlyUnaddressed.ite {p : Prop} [Decidable p] {a b : Outcome α} (ha : OnlyUnaddressed a)
    (hb : OnlyUnaddressed b) : OnlyUnaddressed (if p then a else b) := by
  split
  · exact ha
  · exact hb

theorem OnlyUnaddressed.mapM {f : α → Outcome β} (hf : ∀ x, OnlyUnaddressed (f x)) (part : Option α) :
    OnlyUnaddressed (part.mapM f) := by
  cases part with
  | none => exact onlyUnaddressed_ok none
  | some x => exact (hf x).bind fun y => onlyUnaddressed_ok (some y)

end

/-- Encoding a part of a URL fails for no other reason than the address. -/
theorem onlyUnaddressed_encoded (allowed : Char → Bool) (part : List Char) :
    OnlyUnaddressed (encoded allowed part) :=
  .ite (onlyUnaddressed_error (.inr rfl)) (onlyUnaddressed_ok _)

/-- Nor does reading the host of a URL. -/
theorem onlyUnaddressed_host? (written : List Char) : OnlyUnaddressed (host? written) := by
  have hnone : OnlyUnaddressed (.error .badAddress : Outcome (List Char)) :=
    onlyUnaddressed_error (.inl rfl)
  unfold host?
  refine .ite (.ite (onlyUnaddressed_ok _) hnone) (.ite ?_ (.ite (onlyUnaddressed_ok _) ?_))
  · exact .ite (onlyUnaddressed_ok _) hnone
  · cases Domain.asciiName? (Text.lower written) with
    | some name => exact onlyUnaddressed_ok name
    | none => exact hnone

/-- Nor does reading its port. -/
theorem onlyUnaddressed_port? (scheme digits : List Char) :
    OnlyUnaddressed (port? scheme digits) := by
  unfold port?
  refine .ite (onlyUnaddressed_ok _) ?_
  cases wholeNumber? digits with
  | some n => exact onlyUnaddressed_ok _
  | none => exact onlyUnaddressed_error (.inl rfl)

/-- A text is a target, or it is no address. -/
theorem onlyUnaddressed_ofText (url : String) : OnlyUnaddressed (Target.ofText url) := by
  have hnone {α : Type} : OnlyUnaddressed (.error .badAddress : Outcome α) :=
    onlyUnaddressed_error (.inl rfl)
  unfold Target.ofText
  refine .ite hnone (.bind (onlyUnaddressed_encoded _ _) fun user =>
    .bind (onlyUnaddressed_host? _) fun host => .bind (onlyUnaddressed_port? _ _) fun port =>
      .ite hnone (.bind (onlyUnaddressed_encoded _ _) fun path => ?_))
  exact .bind (.mapM (onlyUnaddressed_encoded _) _) fun query =>
    .bind (.mapM (onlyUnaddressed_encoded _) _) fun fragment => onlyUnaddressed_ok _

/-- A text that is no address is a bad one, or cannot be written. -/
theorem isUnaddressed_of_ofText {url : String} {e : Failure} (h : Target.ofText url = .error e) :
    IsUnaddressed e := onlyUnaddressed_ofText url e h

end Rollout.Url
