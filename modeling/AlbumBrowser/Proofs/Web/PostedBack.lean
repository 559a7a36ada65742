import AlbumBrowser.Proofs.Web.ReadBack

/-!
Criteria that are got can be posted back, since their record gives them back. Criteria in force keep what is
shown already, also after a load that has asked no filter, so posting them changes nothing.
-/

namespace AlbumBrowser

namespace Viewer

variable {v w : Viewer} {view : GalleryView}

/-- The criteria in force keep what is shown. -/
theorem InStep.filter_criteria (hv : v.InStep) (h : v.filter v.criteria = some (view, w)) : w = v := by
  rw [filter_eq] at h
  obtain ⟨kept, hkeep, hview⟩ := Option.bind_eq_some_iff.mp h
  obtain ⟨shown, -, heq⟩ := Option.map_eq_some_iff.mp hview
  cases heq
  rw [hv.eq_of_keep hkeep]
  rfl

end Viewer

namespace Web

theorem fromUTF8?_toUTF8 (text : String) : String.fromUTF8? text.toUTF8 = some text :=
  dif_pos text.isValidUTF8

namespace Server

variable {source : String} {zone : ViewerZone} {s s' : Server} {fetched : Fetched} {r : Request} {response : Response}

/-- Posting the text of criteria filters by them. -/
theorem handle_posting_written {c : Criteria} (hroute : r.route = .filter) (hbody : r.body = c.toJson.text.toUTF8) :
    s.handle fetched r = (s.viewer.filter c).map s.galleryAnswer := by
  rw [handle_eq_onRoute hroute (by decide), onRoute, postFilter, hbody, fromUTF8?_toUTF8]
  simp only [Criteria.read_toJson]

theorem Reached.inStep (hs : s.Reached source zone) : s.viewer.InStep := by
  obtain ⟨-, ops, outcomes, hrun⟩ := hs
  exact Viewer.inStep_of_run hrun

theorem Reached.zone_eq (hs : s.Reached source zone) : s.viewer.zone = zone := by
  obtain ⟨-, ops, outcomes, hrun⟩ := hs
  exact Viewer.zone_of_run hrun

/-- Criteria survive being got and posted back. Whatever criteria a server has in force, the text that it gives for
them is read back as just these. And on a server that requests have led to, posting that text changes nothing,
neither the criteria nor the albums that are shown; it stops only if an album is loaded that cannot be
placed in the calendar. -/
theorem criteria_posted_back (hs : s.Reached source zone) :
    (∀ t : Server, ∃ response, t.Gives .criteria response ∧ response.status = 200 ∧
      Criteria.read response.body = .ok t.viewer.criteria) ∧
    ∀ (got posted : Request) (fetched fetched' : Fetched) (response : Response) (t : Server),
      got.route = .criteria → s.handle fetched got = some (response, t) →
      posted.route = .filter → posted.body = response.body.toUTF8 →
        t = s ∧ (s.handle fetched' posted = none ↔ ∃ a ∈ s.viewer.gallery.albums, a.Beyond zone) ∧
        ∀ answer s', s.handle fetched' posted = some (answer, s') → s' = s ∧ answer.status = 200 := by
  refine ⟨fun t => ⟨_, gives_criteria rfl, rfl, Criteria.read_toJson _⟩, ?_⟩
  intro got posted fetched fetched' response t hgot hanswer hposted hbody
  rw [gives_criteria rfl fetched got hgot] at hanswer
  cases hanswer
  rw [handle_posting_written hposted hbody]
  refine ⟨rfl, ?_, ?_⟩
  · rw [Option.map_eq_none_iff, Viewer.filter_eq_none_iff, hs.zone_eq]
  · intro answer s' hpost
    obtain ⟨⟨view, w⟩, hfilter, heq⟩ := Option.map_eq_some_iff.mp hpost
    cases heq
    rw [hs.inStep.filter_criteria hfilter]
    exact ⟨rfl, rfl⟩

/-- Criteria with a quotation mark, a backslash, control characters, and a character above 16 bits. -/
def marks : Criteria where
  date := "2024-01-05"
  endTime := "😀\"\\\n\x01"

theorem criteria_posted_back_with_marks : ∃ outcomes w response answer,
    (Viewer.fresh "albums.json" Zone.utc).run [.load (.ok sampleAlbums), .filter marks] = some (outcomes, w) ∧
    w.gallery.visible.map (·.id) = ["2"] ∧
    (new w).handle (.ok []) ⟨"GET", "/api/filters", .empty⟩ = some (response, new w) ∧
    response.body = "\x7b\"date\":\"2024-01-05\",\"start_time\":\"\",\"end_time\":\"😀\\\"\\\\\\n\\u0001\"," ++
      "\"keyword\":\"\",\"include_without_description\":true\x7d" ∧
    (new w).handle (.ok []) ⟨"POST", "/api/filters", response.body.toUTF8⟩ = some (answer, new w) ∧
    answer.status = 200 := by
  obtain ⟨outcomes, w, hrun, hshown, hcriteria, halbums⟩ : ∃ outcomes w,
      (Viewer.fresh "albums.json" Zone.utc).run [.load (.ok sampleAlbums), .filter marks] = some (outcomes, w) ∧
      w.gallery.visible.map (·.id) = ["2"] ∧ w.criteria = marks ∧ w.gallery.albums = sampleAlbums :=
    ⟨_, _, rfl, rfl, rfl, rfl⟩
  have hget : (Request.mk "GET" "/api/filters" .empty).route = .criteria := by decide +kernel
  have hgot := gives_criteria (s := new w) hcriteria (.ok []) _ hget
  have hbody : marks.toJson.text = "\x7b\"date\":\"2024-01-05\",\"start_time\":\"\"," ++
      "\"end_time\":\"😀\\\"\\\\\\n\\u0001\",\"keyword\":\"\",\"include_without_description\":true\x7d" := by
    decide +kernel
  obtain ⟨-, hback⟩ := criteria_posted_back (reached_new hrun)
  obtain ⟨-, hstops, hkept⟩ := hback _ ⟨"POST", "/api/filters", marks.toJson.text.toUTF8⟩ (.ok []) (.ok []) _ _ hget hgot
    (by decide +kernel) rfl
  have hplaced : ¬ ∃ a ∈ (new w).viewer.gallery.albums, a.Beyond Zone.utc := by
    rw [show (new w).viewer.gallery.albums = sampleAlbums from halbums]
    decide +kernel
  obtain ⟨⟨answer, s'⟩, hanswer⟩ := Option.ne_none_iff_exists'.mp (mt hstops.mp hplaced)
  obtain ⟨rfl, hstatus⟩ := hkept answer s' hanswer
  exact ⟨outcomes, w, _, answer, hrun, hshown, hgot, hbody, hanswer, hstatus⟩

end Server

end Web

end AlbumBrowser
