import Bindery.Settings.Basic

/-!
# Default settings

The settings for toxcore 0.2.18.  Settings that are read need to name only what differs.
-/

namespace Bindery

namespace Markers

def default : Markers where
  getter := "get_"
  setter := "set_"
  allocator := "new"
  deallocators := ["free", "kill"]
  numberHandle := "_number"
  callbackSuffix := "_cb"
  errorParameter := "error"
  sizeSuffixes := ["_size", "_length"]
  length := "length"
  event := "event"
  text := ["name", "title", "message"]

end Markers

namespace SlotNames

def default : SlotNames where
  allocator := "allocate_native"
  deallocator := "deallocate_native"
  getter := "get"
  setter := "set"
  callback := "callback"

end SlotNames

namespace KeywordOverrides

def default : KeywordOverrides where
  returns := .ofList [("savedata_data", "savedata")]
  returnMethods := [
    { className := "ToxEventFileRecvChunk", method := "get_data", keyword := "" }]
  getters := .ofList [("dht_id", "address"), ("id", "_id")]
  getterFunctions := .ofList [("hash", "hash")]
  setters := .ofList [("savedata_data", "savedata")]
  parameters := .ofList [("conference_by_id", "_id"), ("conference_by_uid", "_uid")]

end KeywordOverrides

namespace Renaming

def default : Renaming where
  properties := .empty
  functions := .empty

end Renaming

namespace Settings

def default : Settings where
  irVersion := "0.1.0"
  libraryVersion := "0.2.18"
  headers := .ofList [("tox.h", "Tox")]
  markers := Markers.default
  canonical := SlotNames.default
  errorEnumPrefix := "ToxErr"
  exceptionPrefix := "Tox"
  excludedFunctionMarkers := ["operating_system"]
  skippedEnums := ["T"]
  eventReturnExclusions := ["ToxEvents"]
  numberHandleExemptions := [
    { function := "peer_number_is_ours" },
    { function := "conference_invite", className := some "Friend" }]
  keywords := KeywordOverrides.default
  numberHandleReturns := .ofList [
    ("self_get_friend_list", "Friend"),
    ("friend_add", "Friend"),
    ("friend_add_norequest", "Friend"),
    ("friend_by_public_key", "Friend"),
    ("conference_get_chatlist", "Conference"),
    ("conference_new", "Conference"),
    ("conference_by_id", "Conference"),
    ("conference_by_uid", "Conference"),
    ("conference_join", "Conference"),
    ("file_send", "File")]
  defaultInitializers := .ofList [("ToxOptions", "default")]
  forcedProperties := ["iteration_interval"]
  renames := .ofList [
    ("Tox", {
      properties := .empty
      functions := .ofList [
        ("friend_add", "add_friend"),
        ("friend_add_norequest", "add_friend_norequest"),
        ("conference_new", "new_conference")] }),
    ("Friend", {
      properties := .empty
      functions := .ofList [("file_send", "send_file")] }),
    ("File", {
      properties := .ofList [("file_id", "id")]
      functions := .empty }),
    ("Conference", {
      properties := .empty
      functions := .ofList [("peer_number_is_ours", "peer_is_ours")] })]

end Settings

end Bindery
