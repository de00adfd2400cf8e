import HomePortal.Http.Address
import HomePortal.Proofs.Http.Percent
import Mathlib.Data.List.TakeWhile
/-!
Addresses made of a server's address and a path. What is sent is the path, without its `.` and `..`
segments, and nothing of the server's address is taken for a part of it.
-/

namespace HomePortal.Address

variable {scheme authority slashes path folder segment text : List Char} {a : Address}

/-! ### The address of a server -/

def isSchemeChar (c : Char) : Bool :=
  c.isAlphanum || c == '+' || c == '.' || c == '-'

structure IsScheme (scheme : List Char) : Prop where
  starts : ∃ c rest, scheme = c :: rest ∧ c.isAlpha = true
  chars : ∀ c ∈ scheme, isSchemeChar c = true

def inAuthority (c : Char) : Bool :=
  !("/?#".toList.contains c)

structure IsServer (scheme authority : List Char) : Prop where
  scheme : IsScheme scheme
  nonempty : authority ≠ []
  chars : ∀ c ∈ authority, inAuthority c = true

def serverText (scheme authority : List Char) : List Char :=
  scheme ++ ':' :: '/' :: '/' :: authority

def IsBare (text : List Char) : Prop :=
  ∃ scheme authority slashes, IsServer scheme authority ∧ (∀ c ∈ slashes, c = '/') ∧
    text = serverText scheme authority ++ slashes

/-- The slashes after a server's address are the ones that can be dropped. -/
theorem dropSlashes_serverText (hserver : IsServer scheme authority)
    (hslashes : ∀ c ∈ slashes, c = '/') :
    ((serverText scheme authority ++ slashes).reverse.dropWhile (· == '/')).reverse =
      serverText scheme authority := by
  obtain ⟨front, last, rfl⟩ : ∃ front last, authority = front ++ [last] :=
    ⟨_, _, (List.dropLast_concat_getLast hserver.nonempty).symm⟩
  have hlast : (last == '/') = false := by
    have hchar := hserver.chars last (by simp)
    rw [beq_eq_false_iff_ne]
    rintro rfl
    exact absurd hchar (by decide)
  have hall : ∀ c ∈ slashes.reverse, (c == '/') = true := fun c hc =>
    beq_iff_eq.2 (hslashes c (List.mem_reverse.1 hc))
  have hback : (serverText scheme (front ++ [last])).reverse =
      last :: (serverText scheme front).reverse := by
    simp [serverText]
  rw [List.reverse_append, List.dropWhile_append_of_pos hall, hback,
    List.dropWhile_cons_of_neg (by simp [hlast]), ← hback, List.reverse_reverse]

theorem splitScheme_append (hscheme : IsScheme scheme) (rest : List Char) :
    splitScheme (scheme ++ ':' :: rest) = (scheme, rest) := by
  have htake : (scheme ++ ':' :: rest).takeWhile isSchemeChar = scheme := by
    rw [List.takeWhile_append_of_pos hscheme.chars, List.takeWhile_cons_of_neg (by decide),
      List.append_nil]
  obtain ⟨c, more, hcs, hletter⟩ := hscheme.starts
  unfold splitScheme
  unfold isSchemeChar at htake
  simp only [htake, List.drop_left]
  rw [hcs]
  simp [hletter]

/-! ### Paths -/

def isDots (segment : List Char) : Bool :=
  segment == ['.'] || segment == ['.', '.']

theorem followDots_of_plain {segments : List (List Char)}
    (hplain : ∀ s ∈ segments, isDots s = false) (before : List (List Char)) :
    followDots before segments = before.reverse ++ segments := by
  induction segments generalizing before with
  | nil => rw [followDots, List.append_nil]
  | cons s segments ih =>
    obtain ⟨hdot, hdots⟩ := Bool.or_eq_false_iff.1 (hplain s List.mem_cons_self)
    rw [followDots, hdot, hdots, if_neg nofun, if_neg nofun, ih fun s hs => hplain s (.tail _ hs),
      List.reverse_cons, List.append_assoc, List.singleton_append]

/-- A path without dots stays as it is. -/
theorem plainPath_append_of_plain (hfolder : ∀ s ∈ folder.splitOn '/', isDots s = false)
    (hsegment : '/' ∉ segment) (hdots : isDots segment = false) :
    plainPath (folder ++ '/' :: segment) = folder ++ '/' :: segment := by
  have hplain : ∀ s ∈ (folder ++ '/' :: segment).splitOn '/', isDots s = false := by
    rw [List.splitOn_append_cons_self, List.splitOn_eq_singleton hsegment]
    exact List.forall_mem_append.2 ⟨hfolder, by simpa using hdots⟩
  rw [plainPath, followDots_of_plain hplain, List.reverse_nil, List.nil_append,
    List.intercalate_splitOn]

/-- What follows the address of a server is its path, if nothing in it starts a query. -/
theorem of_read?_append (hserver : IsServer scheme authority)
    (hpath : ∀ c ∈ path, (c != '?' && c != '#') = true)
    (ha : read? (serverText scheme authority ++ '/' :: path) = some a) :
    a.path = Percent.encode inPath (plainPath ('/' :: path)) ∧ a.query = none := by
  have hne : (String.ofList scheme == "") = false := by
    obtain ⟨c, rest, rfl, -⟩ := hserver.scheme.starts
    simp
  have htake : (authority ++ '/' :: path).takeWhile inAuthority = authority := by
    rw [List.takeWhile_append_of_pos hserver.chars, List.takeWhile_cons_of_neg (by decide),
      List.append_nil]
  have hdrop : (authority ++ '/' :: path).dropWhile inAuthority = '/' :: path := by
    rw [List.dropWhile_append_of_pos hserver.chars, List.dropWhile_cons_of_neg (by decide)]
  have hall : ('/' :: path).takeWhile (fun c => c != '?' && c != '#') = '/' :: path :=
    List.takeWhile_eq_self_iff.2 (List.forall_mem_cons.2 ⟨by decide, hpath⟩)
  unfold inAuthority at htake hdrop
  have htext : serverText scheme authority ++ '/' :: path =
      scheme ++ ':' :: '/' :: '/' :: (authority ++ '/' :: path) := by
    simp [serverText]
  unfold read? at ha
  rw [htext, splitScheme_append hserver.scheme] at ha
  simp only [htake, hdrop, hall, hne, List.drop_length, Bool.false_and, Bool.false_eq_true,
    if_false] at ha
  split at ha
  · cases ha
  · simp only [Option.bind_eq_bind, Option.bind_eq_some_iff] at ha
    obtain ⟨host, -, port, -, heq⟩ := ha
    cases heq
    exact ⟨rfl, rfl⟩

/-- What is sent to a server is the plain path, whether the address is complete or not. -/
theorem target_of_ofText {c : Char} {sent : List Char} (hserver : IsServer scheme authority)
    (hpath : ∀ c ∈ path, (c != '?' && c != '#') = true)
    (hsent : Percent.encode inPath (plainPath ('/' :: path)) = '/' :: c :: sent) (hc : c ≠ '/')
    (ha : ofText (String.ofList (serverText scheme authority ++ '/' :: path)) = .ok a) :
    a.target = '/' :: c :: sent := by
  rw [ofText, String.toList_ofList] at ha
  cases hread : read? (serverText scheme authority ++ '/' :: path) with
  | none =>
    rw [hread] at ha
    cases ha
  | some b =>
    obtain ⟨hb, hquery⟩ := of_read?_append hserver hpath hread
    rw [hsent] at hb
    rw [hread] at ha
    obtain rfl := Except.ok.inj ha
    by_cases hcomplete : b.isComplete = true
    · simp [hcomplete, target, hb, hquery]
    · simp [hcomplete, target, localPart, hb, hquery, hc]

end HomePortal.Address
