import SignOut.Proofs.Origin
import SignOut.Proofs.StickyPath

/-!
# The configured path and the path of a request

A request is recognised by the path of its target, and that is not the path with which it arrived:
three characters are written by their code, a missing slash is put in front, and tabs and line ends
are dropped.  What comes out is in a normal form that this does not change any further, so a request
that arrives at a path in normal form is recognised exactly if that is the configured path.  A
configured path that is not in normal form is never the path of a target: no request is recognised
by it, not even one that arrives at that very path.
-/

namespace SignOut

namespace Request

/-! ## The normal form of paths -/

/-- The characters that do not stay in the path of a target: those that would end it, and those that
are dropped. -/
def alteredChars : List Char := ['?', '#', '\\', '\t', '\r', '\n']

/-- The path of a target is this path, if nothing in it is altered and it starts with a slash or
holds nothing. -/
structure IsNormal (path : List Char) : Prop where
  rooted : path = [] ∨ path.head? = some '/'
  unaltered : ∀ c ∈ path, c ∉ alteredChars

variable {path : List Char} {c d : Char}

theorem targetChar_of_not_mem (h : c ∉ alteredChars) : targetChar c = [c] := by
  simp only [alteredChars, List.mem_cons, not_or] at h
  obtain ⟨hquery, hfragment, hbackslash, -⟩ := h
  rw [targetChar, if_neg hquery, if_neg hfragment, if_neg hbackslash]

/-- The form of a character holds none of the characters that would end the path. -/
theorem not_mem_targetChar : '?' ∉ targetChar c ∧ '#' ∉ targetChar c ∧ '\\' ∉ targetChar c := by
  unfold targetChar
  split
  · decide
  split
  · decide
  split
  · decide
  · rename_i hquery hfragment hbackslash
    simp only [List.mem_singleton]
    exact ⟨Ne.symm hquery, Ne.symm hfragment, Ne.symm hbackslash⟩

/-- A path with a slash in front of it, unless it has one or holds nothing. -/
theorem targetPath_eq (path : List Char) :
    ∃ rooted, (rooted = [] ∨ rooted.head? = some '/') ∧
      (∀ c ∈ rooted, c = '/' ∨ c ∈ path.flatMap targetChar) ∧
      ((path = [] ∨ path.head? = some '/') → rooted = path.flatMap targetChar) ∧
      targetPath path = rooted.filter fun c => !(c == '\t' || c == '\r' || c == '\n') := by
  unfold targetPath
  dsimp only
  split
  · rename_i hnothing
    exact ⟨[], Or.inl rfl, nofun, fun _ => hnothing.symm, rfl⟩
  · rename_i rest hslash
    exact ⟨'/' :: rest, Or.inr rfl, fun c hc => Or.inr (hslash ▸ hc), fun _ => hslash.symm, rfl⟩
  · rename_i hne hnoslash
    refine ⟨_, Or.inr rfl, fun c hc => List.mem_cons.mp hc, ?_, rfl⟩
    rintro (rfl | hhead)
    · exact absurd rfl hne
    · obtain ⟨rest, rfl⟩ := List.head?_eq_some_iff.mp hhead
      exact absurd rfl (hnoslash (rest.flatMap targetChar))

/-- The path of a target is in normal form. -/
theorem isNormal_targetPath (path : List Char) : IsNormal (targetPath path) := by
  obtain ⟨rooted, hrooted, hchars, -, heq⟩ := targetPath_eq path
  rw [heq]
  constructor
  · rcases hrooted with rfl | hhead
    · exact Or.inl rfl
    · obtain ⟨rest, rfl⟩ := List.head?_eq_some_iff.mp hhead
      exact Or.inr rfl
  · intro c hc haltered
    obtain ⟨hmem, hkept⟩ := List.mem_filter.mp hc
    rcases hchars c hmem with rfl | hescaped
    · revert haltered
      decide
    · obtain ⟨d, -, hd⟩ := List.mem_flatMap.mp hescaped
      obtain ⟨hquery, hfragment, hbackslash⟩ := @not_mem_targetChar d
      simp only [alteredChars, List.mem_cons, List.not_mem_nil, or_false] at haltered
      -- the first three are written by their code, the others are dropped
      rcases haltered with rfl | rfl | rfl | rfl | rfl | rfl
      · exact hquery hd
      · exact hfragment hd
      · exact hbackslash hd
      · cases hkept
      · cases hkept
      · cases hkept

/-- A path in normal form is the path of its target. -/
theorem targetPath_of_isNormal (h : IsNormal path) : targetPath path = path := by
  obtain ⟨rooted, -, -, hsame, heq⟩ := targetPath_eq path
  have hescaped : path.flatMap targetChar = path := by
    calc path.flatMap targetChar
        = path.flatMap fun c => [c] := by
          unfold List.flatMap
          rw [List.map_congr_left fun c hc => targetChar_of_not_mem (h.unaltered c hc)]
      _ = path := List.flatMap_singleton' path
  rw [heq, hsame h.rooted, hescaped]
  refine List.filter_eq_self.mpr fun c hc => ?_
  have hunaltered := h.unaltered c hc
  simp only [alteredChars, List.mem_cons, not_or] at hunaltered
  obtain ⟨-, -, -, htab, hreturn, hline, -⟩ := hunaltered
  simp [htab, hreturn, hline]

/-- The paths of targets are the paths in normal form, and these are their own. -/
theorem targetPath_eq_self_iff : targetPath path = path ↔ IsNormal path :=
  ⟨fun h => h ▸ isNormal_targetPath path, targetPath_of_isNormal⟩

/-- A path that can be read is the path of the target. -/
theorem urlPath_eq_ok {r : Request} {url : String} (h : r.urlPath = .ok url) :
    url = String.ofList (targetPath r.path.toList) := by
  unfold urlPath at h
  split at h
  · cases h
  · cases h
    rfl

end Request

namespace Assembly

variable {a : Assembly} {history : List Call} {filter : StageFilter} {e : Exchange} {p : String}

/-! ## The path in effect -/

/-- A path that is in effect because it was set starts with a slash. -/
theorem head?_of_mem_setPaths (h : p ∈ setPaths history) : p.toList.head? = some '/' := by
  obtain ⟨call, hcall, hpath⟩ := List.mem_filterMap.mp h
  have haccepted := isAccepted_of_mem_optionCalls hcall
  cases call with
  | setPath path =>
      obtain ⟨text, rfl, hslash⟩ := Options.isAccepted_setPath_iff.mp haccepted
      cases hpath
      exact hslash
  | _ => cases hpath

theorem logoutPath_of_setPaths (h : (setPaths history).head? = some p) : logoutPath history = p := by
  show ((setPaths history).head?).getD defaultLogoutPath = p
  rw [h]
  rfl

/-- Without a matcher of its own, a history has a POST request recognised by the path of its
target. -/
theorem exec_requiresLogout_of_post (hbuilt : (initial.applyAll history).build.result = .ok filter)
    (hnone : givenMatcher history = none) (hset : (setPaths history).head? = some p)
    (hmethod : e.request.upperMethod = "POST") {url : String}
    (hurl : e.request.urlPath = .ok url) :
    Run.exec filter.bare.requiresLogout e =
      (.ok (decide (Request.targetPath e.request.path.toList = p.toList)), e) := by
  have hallowed : decide (e.request.upperMethod ∈
      Text.ordered ((allowedMethods (protects history)).map Text.upperText)) = true :=
    decide_eq_true (mem_ordered_allowedMethods.mpr (Or.inl hmethod))
  have hsame : (url == p) = decide (Request.targetPath e.request.path.toList = p.toList) := by
    rw [Request.urlPath_eq_ok hurl, Bool.eq_iff_iff, beq_iff_eq, decide_eq_true_iff,
      ← String.toList_inj, String.toList_ofList]
  unfold Stage.requiresLogout
  rw [matcher_bare_of_none hbuilt hnone, Matcher.exec_ask_logout hurl, hallowed, Bool.and_true,
    logoutPath_of_setPaths hset, hsame]

/-- A request whose target cannot be read stops the question whether it is recognised. -/
theorem exec_requiresLogout_of_unreadable
    (hbuilt : (initial.applyAll history).build.result = .ok filter)
    (hnone : givenMatcher history = none) {run : Text.UndecodableRun}
    (hunreadable : e.request.urlPath = .error run) :
    Run.exec filter.bare.requiresLogout e = (.error (.undecodable run), e) := by
  unfold Stage.requiresLogout
  rw [matcher_bare_of_none hbuilt hnone]
  exact Matcher.exec_ask_logout_of_unreadable hunreadable

/-- Which POST requests are recognised by a path that was set, with request-forgery protection or
without: those the path of whose target it is, provided that the target can be read.  A request that
arrives at a path in normal form is recognised exactly if it arrives at the configured one.  One
that arrives at the configured path is recognised exactly if no character of that path is altered;
if one is, no request is recognised. -/
theorem recognised_iff_targetPath (hleft : a.LeftBy history) (hbuilt : a.build.result = .ok filter)
    (hnone : givenMatcher history = none) (hset : (setPaths history).head? = some p)
    (hmethod : e.request.upperMethod = "POST") :
    (∀ run, e.request.urlPath = .error run →
      Run.exec filter.bare.requiresLogout e = (.error (.undecodable run), e)) ∧
    ∀ url, e.request.urlPath = .ok url → ∃ recognised,
      Run.exec filter.bare.requiresLogout e = (.ok recognised, e) ∧
      (recognised = true ↔ Request.targetPath e.request.path.toList = p.toList) ∧
      (Request.IsNormal e.request.path.toList → (recognised = true ↔ e.request.path = p)) ∧
      (e.request.path = p → (recognised = true ↔ ∀ c ∈ p.toList, c ∉ Request.alteredChars)) ∧
      ((∃ c ∈ p.toList, c ∈ Request.alteredChars) → recognised = false) := by
  obtain rfl := hleft.eq
  refine ⟨fun run hunreadable => exec_requiresLogout_of_unreadable hbuilt hnone hunreadable, ?_⟩
  intro url hurl
  have hslash := head?_of_mem_setPaths (List.mem_of_head? hset)
  have hnormal : Request.IsNormal p.toList ↔ ∀ c ∈ p.toList, c ∉ Request.alteredChars :=
    ⟨fun h => h.unaltered, fun h => ⟨Or.inr hslash, h⟩⟩
  refine ⟨_, exec_requiresLogout_of_post hbuilt hnone hset hmethod hurl, decide_eq_true_iff, ?_, ?_,
    ?_⟩
  · intro harrived
    rw [decide_eq_true_iff, Request.targetPath_of_isNormal harrived, String.toList_inj]
  · intro harrived
    rw [decide_eq_true_iff, harrived, Request.targetPath_eq_self_iff, hnormal]
  · rintro ⟨c, hc, haltered⟩
    refine decide_eq_false fun htarget => ?_
    exact (htarget ▸ Request.isNormal_targetPath e.request.path.toList).unaltered c hc haltered

/-- A history that sets a path in a chain without protection. -/
def sampleOpen : List Operation :=
  [.make (.csrf false none), .make (.logout [.ok (.setPath (some "/sign-out"))])]

theorem recognised_iff_targetPath_sample :
    ∃ filter : StageFilter, (initial.perform sampleOpen).build.result = .ok filter ∧
      Run.exec filter.bare.requiresLogout (sampleRequest "POST" "/sign-out") =
        (.ok true, sampleRequest "POST" "/sign-out") ∧
      Run.exec filter.bare.requiresLogout (sampleRequest "POST" "/sign%2Dout") =
        (.ok false, sampleRequest "POST" "/sign%2Dout") := by
  have hbuilt : ∃ s, (initial.perform sampleOpen).build.result =
      .ok (StageFilter.stage s) := ⟨_, rfl⟩
  obtain ⟨s, hs⟩ := hbuilt
  have hpost : Text.upperText "POST" = "POST" := by decide
  have hrecognised := fun path => (recognised_iff_targetPath (.script .fresh sampleOpen) hs rfl rfl
    (e := sampleRequest "POST" path) hpost).2 _ (urlPath_sampleRequest "POST" path)
  refine ⟨.stage s, hs, ?_, ?_⟩
  · obtain ⟨recognised, hexec, htarget, -⟩ := hrecognised "/sign-out"
    obtain rfl : recognised = true := htarget.mpr (by decide)
    exact hexec
  · obtain ⟨recognised, hexec, htarget, -⟩ := hrecognised "/sign%2Dout"
    obtain rfl : recognised = false := Bool.eq_false_iff.mpr (mt htarget.mp (by decide))
    exact hexec

/-- A POST request to the default path with a byte in its query that is no text. -/
def unreadablePost : Exchange :=
  { sampleRequest "POST" defaultLogoutPath with
    request := { (sampleRequest "POST" defaultLogoutPath).request with query := "ÿ" } }

/-- A path with a question mark in it can be set, but a request that arrives there is not
recognised.  With the default path in effect, a request that arrives there with a tab in its path is
recognised, and one whose target cannot be read gets no answer. -/
theorem misses_configured_path :
    (∃ filter : StageFilter,
      (initial.perform [.make (.logout [.ok (.setPath (some "/a?b"))])]).build.result =
        .ok filter ∧
      Run.exec filter.bare.requiresLogout (sampleRequest "POST" "/a?b") =
        (.ok false, sampleRequest "POST" "/a?b")) ∧
    ∃ filter : StageFilter,
      (initial.perform [.make (.logout [.ok (.setPath (some "/logout"))])]).build.result =
        .ok filter ∧
      Run.exec filter.bare.requiresLogout (sampleRequest "POST" "/log\tout") =
        (.ok true, sampleRequest "POST" "/log\tout") ∧
      ∃ fault, Run.exec filter.bare.requiresLogout unreadablePost = (.error fault, unreadablePost) := by
  have hpost : Text.upperText "POST" = "POST" := by decide
  refine ⟨?_, ?_⟩
  · have hbuilt : ∃ s, (initial.applyAll
        [.logout [.ok (.setPath (some "/a?b"))]]).build.result =
            .ok (StageFilter.stage s) := ⟨_, rfl⟩
    obtain ⟨s, hs⟩ := hbuilt
    have hdiffer : decide (Request.targetPath "/a?b".toList = "/a?b".toList) = false := by decide
    refine ⟨.stage s, hs, ?_⟩
    rw [← hdiffer]
    exact exec_requiresLogout_of_post hs rfl rfl hpost (urlPath_sampleRequest _ _)
  · have hbuilt : ∃ s, (initial.applyAll
        [.logout [.ok (.setPath (some "/logout"))]]).build.result =
            .ok (StageFilter.stage s) := ⟨_, rfl⟩
    obtain ⟨s, hs⟩ := hbuilt
    have hsame : decide (Request.targetPath "/log\tout".toList = "/logout".toList) = true := by
      decide
    obtain ⟨run, hrun⟩ := exists_urlPath_error (r := unreadablePost.request) rfl
    refine ⟨.stage s, hs, ?_, _, exec_requiresLogout_of_unreadable hs rfl hrun⟩
    rw [← hsame]
    exact exec_requiresLogout_of_post hs rfl rfl hpost (urlPath_sampleRequest _ _)

end Assembly

end SignOut
