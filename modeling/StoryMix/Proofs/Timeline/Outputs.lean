import StoryMix.Proofs.FileName
import StoryMix.Proofs.Timeline.Plan

/-!
# Where segments are made

Every segment is made in a file of its own, right in the working directory. Its name opens with the
kind of segment and then has the number of the segment, which grows with every segment: so what a
speaker's name adds behind the number cannot make two names one, nor can the number when it outgrows
its four digits. The ending keeps segments apart from every mix.
-/

namespace StoryMix

/-- Where a tool is told to leave a segment. -/
def Call.segmentPath? : Call → Option String
  | voice request => some request.outputPath
  | silence request => some request.outputPath
  | _ => none

def segmentPaths (calls : List Call) : List String :=
  calls.filterMap Call.segmentPath?

theorem segmentPaths_append (xs ys : List Call) :
    segmentPaths (xs ++ ys) = segmentPaths xs ++ segmentPaths ys :=
  List.filterMap_append

namespace Timeline

/-- The names of the segments of events, when `n` segments have been made. -/
def segmentNames (n : Nat) : List Event → List String
  | [] => []
  | .utterance speaker _ :: events => speechName (n + 1) speaker :: segmentNames (n + 1) events
  | .pause _ :: events => silenceName (n + 1) :: segmentNames (n + 1) events
  | _ :: events => segmentNames n events

/-- The numbers of later segments are greater. -/
theorem exists_number_of_mem {n : Nat} {events : List Event} {name : String}
    (h : name ∈ segmentNames n events) : ∃ k, n < k ∧ SegmentName k name := by
  induction events generalizing n with
  | nil => cases h
  | cons event events ih =>
      cases event with
      | utterance speaker text =>
          rcases List.mem_cons.1 h with rfl | h
          · exact ⟨n + 1, n.lt_succ_self, .speech speaker⟩
          · obtain ⟨k, hk, hname⟩ := ih h
            exact ⟨k, Nat.lt_of_succ_lt hk, hname⟩
      | pause seconds =>
          rcases List.mem_cons.1 h with rfl | h
          · exact ⟨n + 1, n.lt_succ_self, .silence⟩
          · obtain ⟨k, hk, hname⟩ := ih h
            exact ⟨k, Nat.lt_of_succ_lt hk, hname⟩
      | cue asset anchor offset => exact ih h
      | directive key value => exact ih h
      | other kind => exact ih h

/-- The name of the next segment is none of those that come later. -/
theorem SegmentName.not_mem_later {n : Nat} {events : List Event} {name : String}
    (h : SegmentName n name) : name ∉ segmentNames n events := by
  intro hmem
  obtain ⟨k, hk, hname⟩ := exists_number_of_mem hmem
  exact Nat.lt_irrefl n (h.number_eq hname ▸ hk)

theorem nodup_segmentNames (n : Nat) (events : List Event) : (segmentNames n events).Nodup := by
  induction events generalizing n with
  | nil => exact .nil
  | cons event events ih =>
      cases event with
      | utterance speaker text =>
          exact List.nodup_cons.2 ⟨(SegmentName.speech speaker).not_mem_later, ih (n + 1)⟩
      | pause seconds => exact List.nodup_cons.2 ⟨SegmentName.silence.not_mem_later, ih (n + 1)⟩
      | cue asset anchor offset => exact ih n
      | directive key value => exact ih n
      | other kind => exact ih n

variable {config : ProducerConfig} {workDir : String}

theorem segmentPaths_plannedFor (n : Nat) (files : List String) (events : List Event) :
    segmentPaths (plannedFor config workDir n files events) =
      (segmentNames n events).map fun name => Path.join [workDir, name] := by
  induction events generalizing n files with
  | nil => rfl
  | cons event events ih =>
      cases event with
      | utterance speaker text => exact congrArg (List.cons _) (ih (n + 1) files.tail)
      | pause seconds => exact congrArg (List.cons _) (ih (n + 1) files)
      | cue asset anchor offset => exact ih n files
      | directive key value => exact ih n files
      | other kind => exact ih n files

/-- A bed is no segment. -/
theorem segmentPaths_buildCalls (events : List Event) (files : List String) :
    segmentPaths (buildCalls config workDir events files) =
      (segmentNames 0 events).map fun name => Path.join [workDir, name] := by
  have hbeds : segmentPaths (bedCalls config events) = [] := by
    refine List.filterMap_eq_nil_iff.2 fun call hcall => ?_
    obtain ⟨id, -, rfl⟩ := List.mem_map.1 hcall
    rfl
  rw [buildCalls, segmentPaths_append, hbeds, List.nil_append, segmentPaths_plannedFor]

section Names

variable {n : Nat} {events : List Event} {path : String}
  (h : path ∈ (segmentNames n events).map fun name => Path.join [workDir, name])

include h

theorem childOf_of_mem_segmentNames : Path.ChildOf workDir path := by
  obtain ⟨name, hname, rfl⟩ := List.mem_map.1 h
  obtain ⟨k, -, hname⟩ := exists_number_of_mem hname
  exact Path.childOf_join workDir hname.plain

theorem apart_output_of_mem_segmentNames (title : String) :
    Path.Apart path (Path.join [workDir, Mix.outputFileName title]) := by
  obtain ⟨name, hname, rfl⟩ := List.mem_map.1 h
  obtain ⟨k, -, hname⟩ := exists_number_of_mem hname
  exact Path.apart_join workDir hname.plain (Mix.plain_outputFileName title)
    (hname.ne_outputFileName title)

end Names

theorem pairwise_apart_segmentNames (workDir : String) (n : Nat) (events : List Event) :
    ((segmentNames n events).map fun name => Path.join [workDir, name]).Pairwise Path.Apart := by
  refine List.pairwise_map.2 ((nodup_segmentNames n events).imp_of_mem ?_)
  intro name other hname hother hne
  obtain ⟨k, -, hname⟩ := exists_number_of_mem hname
  obtain ⟨l, -, hother⟩ := exists_number_of_mem hother
  exact Path.apart_join workDir hname.plain hother.plain fun h => hne (String.toList_inj.1 h)

end Timeline

end StoryMix
