import NetBridge.Log.Reported

namespace NetBridge

/-- The name a text denotes under a policy; a text that is cut is reported. -/
def normalise (policy : NamePolicy) (text : String) : Reported NameFault IfName :=
  match IfName.ofText policy text with
  | .ok name =>
    ⟨if maxNameBytes < text.utf8ByteSize then [.nameTruncated text name] else [], .ok name⟩
  | .error fault => ⟨[], .error fault⟩

end NetBridge
