import Disasm.C.StructFile

/-!
# The structs of the base game

Which structs the default templates take from which file, in their order.
-/

namespace Disasm.Data.GameStructs

open C

def part1 : List StructFile := [
  { file := "game/q_shared.h"
    structs := ["pc_token_t", "qint64", "cvar_t", "vmCvar_t", "cplane_t", "trace_t", "markFragment_t",
      "orientation_t", "gameState_t", "playerState_t", "usercmd_t", "trajectory_t", "entityState_t",
      "glyphInfo_t", "fontInfo_t", "qtime_t"]
    lengths := [
      ("pc_token_t", "string", ["MAX_TOKENLENGTH"]),
      ("vmCvar_t", "string", ["MAX_CVAR_VALUE_STRING"]),
      ("gameState_t", "stringOffsets", ["MAX_CONFIGSTRINGS"]),
      ("gameState_t", "stringData", ["MAX_GAMESTATE_CHARS"]),
      ("playerState_t", "events", ["MAX_PS_EVENTS"]),
      ("playerState_t", "eventParms", ["MAX_PS_EVENTS"]), ("playerState_t", "stats", ["MAX_STATS"]),
      ("playerState_t", "persistant", ["MAX_PERSISTANT"]),
      ("playerState_t", "powerups", ["MAX_POWERUPS"]), ("playerState_t", "ammo", ["MAX_WEAPONS"]),
      ("fontInfo_t", "glyphs", ["GLYPHS_PER_FONT"]), ("fontInfo_t", "name", ["MAX_QPATH"])] },
  { file := "game/bg_local.h"
    source := some "game/bg_pmove.c"
    structs := ["pml_t", "pmove_t", "animation_t", "gitem_t"]
    lengths := [
      ("pmove_t", "touchents", ["MAXTOUCH"]), ("gitem_t", "world_model", ["MAX_ITEM_MODELS"])] },
  { file := "cgame/tr_types.h"
    source := some "cgame/cg_local.h"
    structs := ["polyVert_t", "poly_t", "refEntity_t", "refdef_t", "glconfig_t"]
    lengths := [
      ("refdef_t", "areamask", ["MAX_MAP_AREA_BYTES"]),
      ("refdef_t", "text", ["MAX_RENDER_STRINGS", "MAX_RENDER_STRING_LENGTH"]),
      ("glconfig_t", "renderer_string", ["MAX_STRING_CHARS"]),
      ("glconfig_t", "vendor_string", ["MAX_STRING_CHARS"]),
      ("glconfig_t", "version_string", ["MAX_STRING_CHARS"]),
      ("glconfig_t", "extensions_string", ["BIG_INFO_STRING"])] },
  { file := "cgame/cg_public.h"
    source := some "cgame/cg_local.h"
    structs := ["snapshot_t"]
    lengths := [
      ("snapshot_t", "areamask", ["MAX_MAP_AREA_BYTES"]),
      ("snapshot_t", "entities", ["MAX_ENTITIES_IN_SNAPSHOT"])] },
  { file := "cgame/cg_local.h"
    structs := ["lerpFrame_t", "playerEntity_t", "centity_t", "markPoly_t", "localEntity_t", "score_t",
      "clientInfo_t", "weaponInfo_t", "itemInfo_t", "powerupInfo_t", "skulltrail_t", "cg_t",
      "cgMedia_t", "cgs_t"]
    lengths := [
      ("markPoly_t", "verts", ["MAX_VERTS_ON_POLY"]), ("clientInfo_t", "name", ["MAX_QPATH"]),
      ("clientInfo_t", "modelName", ["MAX_QPATH"]), ("clientInfo_t", "skinName", ["MAX_QPATH"]),
      ("clientInfo_t", "headModelName", ["MAX_QPATH"]),
      ("clientInfo_t", "headSkinName", ["MAX_QPATH"]),
      ("clientInfo_t", "redTeam", ["MAX_TEAMNAME"]), ("clientInfo_t", "blueTeam", ["MAX_TEAMNAME"]),
      ("clientInfo_t", "animations", ["MAX_TOTALANIMATIONS"]),
      ("clientInfo_t", "sounds", ["MAX_CUSTOM_SOUNDS"]),
      ("itemInfo_t", "models", ["MAX_ITEM_MODELS"]),
      ("skulltrail_t", "positions", ["MAX_SKULLTRAIL"]),
      ("cg_t", "predictableEvents", ["MAX_PREDICTED_EVENTS"]),
      ("cg_t", "infoScreenText", ["MAX_STRING_CHARS"]), ("cg_t", "scores", ["MAX_CLIENTS"]),
      ("cg_t", "killerName", ["MAX_NAME_LENGTH"]), ("cg_t", "spectatorList", ["MAX_STRING_CHARS"]),
      ("cg_t", "skulltrails", ["MAX_CLIENTS"]), ("cg_t", "rewardCount", ["MAX_REWARDSTACK"]),
      ("cg_t", "rewardShader", ["MAX_REWARDSTACK"]), ("cg_t", "rewardSound", ["MAX_REWARDSTACK"]),
      ("cg_t", "soundBuffer", ["MAX_SOUNDBUFFER"]), ("cg_t", "testModelName", ["MAX_QPATH"]),
      ("cgMedia_t", "crosshairShader", ["NUM_CROSSHAIRS"]),
      ("cgMedia_t", "footsteps", ["FOOTSTEP_TOTAL", "4"]), ("cgs_t", "mapname", ["MAX_QPATH"]),
      ("cgs_t", "redTeam", ["MAX_QPATH"]), ("cgs_t", "blueTeam", ["MAX_QPATH"]),
      ("cgs_t", "voteString", ["MAX_STRING_TOKENS"]),
      ("cgs_t", "teamVoteString", ["2", "MAX_STRING_TOKENS"]),
      ("cgs_t", "gameModels", ["MAX_MODELS"]), ("cgs_t", "gameSounds", ["MAX_SOUNDS"]),
      ("cgs_t", "inlineDrawModel", ["MAX_MODELS"]),
      ("cgs_t", "inlineModelMidpoints", ["MAX_MODELS"]), ("cgs_t", "clientinfo", ["MAX_CLIENTS"]),
      ("cgs_t", "teamChatMsgs", ["TEAMCHAT_HEIGHT", "TEAMCHAT_WIDTH3_1"]),
      ("cgs_t", "teamChatMsgTimes", ["TEAMCHAT_HEIGHT"]),
      ("cgs_t", "acceptVoice", ["MAX_NAME_LENGTH"])] },
  { file := "cgame/cg_consolecmds.c"
    structs := ["consoleCommand_t"] },
  { file := "cgame/cg_draw.c"
    structs := ["lagometer_t"]
    lengths := [
      ("lagometer_t", "frameSamples", ["LAG_SAMPLES"]),
      ("lagometer_t", "snapshotFlags", ["LAG_SAMPLES"]),
      ("lagometer_t", "snapshotSamples", ["LAG_SAMPLES"])] },
  { file := "cgame/cg_marks.c"
    structs := ["cparticle_t"] },
  { file := "cgame/cg_servercmds.c"
    structs := ["orderTask_t", "voiceChat_t", "voiceChatList_t", "headModelVoiceChat_t", "bufferedVoiceChat_t"]
    lengths := [
      ("voiceChat_t", "sounds", ["MAX_VOICESOUNDS"]),
      ("voiceChat_t", "chats", ["MAX_VOICESOUNDS", "MAX_CHATSIZE"]),
      ("voiceChatList_t", "voiceChats", ["MAX_VOICECHATS"]),
      ("bufferedVoiceChat_t", "cmd", ["MAX_SAY_TEXT"]),
      ("bufferedVoiceChat_t", "message", ["MAX_SAY_TEXT"])] },
  { file := "game/g_public.h"
    source := some "game/g_local.h"
    structs := ["entityShared_t", "sharedEntity_t"] },
  { file := "game/g_local.h"
    structs := ["gentity_s", "playerTeamState_t", "clientSession_t", "clientPersistant_t", "gclient_s",
      "level_locals_t", "bot_settings_t"]
    lengths := [
      ("clientPersistant_t", "netname", ["MAX_NETNAME"]),
      ("level_locals_t", "teamScores", ["TEAM_NUM_TEAMS"]),
      ("level_locals_t", "sortedClients", ["MAX_CLIENTS"]),
      ("level_locals_t", "voteString", ["MAX_STRING_CHARS"]),
      ("level_locals_t", "voteDisplayString", ["MAX_STRING_CHARS"]),
      ("level_locals_t", "teamVoteString", ["2", "MAX_STRING_CHARS"]),
      ("level_locals_t", "spawnVars", ["MAX_SPAWN_VARS", "2"]),
      ("level_locals_t", "spawnVarChars", ["MAX_SPAWN_VARS_CHARS"]),
      ("level_locals_t", "bodyQue", ["BODY_QUEUE_SIZE"]),
      ("bot_settings_t", "characterfile", ["MAX_FILEPATH"]),
      ("bot_settings_t", "team", ["MAX_FILEPATH"])] },
  { file := "game/be_ai_goal.h"
    source := some "game/ai_main.c"
    structs := ["bot_goal_t"] },
  { file := "game/ai_main.h"
    source := some "game/ai_main.c"
    structs := ["bot_waypoint_t", "bot_activategoal_t", "bot_state_t"]
    lengths := [
      ("bot_activategoal_t", "areas", ["MAX_ACTIVATEAREAS"]),
      ("bot_state_t", "inventory", ["MAX_ITEMS"]), ("bot_state_t", "proxmines", ["MAX_PROXMINES"]),
      ("bot_state_t", "activategoalheap", ["MAX_ACTIVATESTACK"])] },
  { file := "game/be_aas.h"
    source := some "game/ai_main.c"
    structs := ["aas_trace_t", "aas_entityinfo_t", "aas_areainfo_t", "aas_clientmove_t", "aas_altroutegoal_t",
      "aas_predictroute_t"] },
  { file := "game/be_ai_chat.h"
    source := some "game/ai_main.c"
    structs := ["bot_consolemessage_t", "bot_matchvariable_t", "bot_match_t"]
    lengths := [
      ("bot_consolemessage_t", "message", ["MAX_MESSAGE_SIZE"]),
      ("bot_match_t", "string", ["MAX_MESSAGE_SIZE"]),
      ("bot_match_t", "variables", ["MAX_MATCHVARIABLES"])] },
  { file := "game/be_ai_move.h"
    source := some "game/ai_main.c"
    structs := ["bot_initmove_t", "bot_moveresult_t", "bot_avoidspot_t"] }]

def part2 : List StructFile := [
  { file := "game/be_ai_weap.h"
    source := some "game/ai_main.c"
    structs := ["projectileinfo_t", "weaponinfo_t"]
    lengths := [
      ("projectileinfo_t", "name", ["MAX_STRINGFIELD"]),
      ("projectileinfo_t", "model", ["MAX_STRINGFIELD"]),
      ("weaponinfo_t", "name", ["MAX_STRINGFIELD"]), ("weaponinfo_t", "model", ["MAX_STRINGFIELD"])] },
  { file := "game/botlib.h"
    source := some "game/ai_main.c"
    structs := ["bot_input_t", "bsp_surface_t", "bsp_trace_t", "bot_entitystate_t", "botlib_import_t",
      "aas_export_t", "ea_export_t", "ai_export_t", "botlib_export_t"] },
  { file := "game/ai_team.c"
    structs := ["bot_ctftaskpreference_t"] },
  { file := "game/ai_vcmd.c"
    structs := ["voiceCommand_t"] },
  { file := "game/g_bot.c"
    structs := ["botSpawnQueue_t"] },
  { file := "game/g_main.c"
    structs := ["cvarTable_t"] },
  { file := "game/g_mover.c"
    structs := ["pushed_t"] },
  { file := "game/g_spawn.c"
    structs := ["field_t", "spawn_t"] },
  { file := "game/g_svcmds.c"
    structs := ["ipFilter_t"] },
  { file := "game/g_team.c"
    structs := ["teamgame_t"] },
  { file := "game/g_utils.c"
    structs := ["shaderRemap_t"]
    lengths := [
      ("shaderRemap_t", "oldShader", ["MAX_QPATH"]), ("shaderRemap_t", "newShader", ["MAX_QPATH"])] },
  { file := "ui/ui_public.h"
    source := some "ui/ui_local.h"
    structs := ["uiClientState_t"]
    lengths := [
      ("uiClientState_t", "servername", ["MAX_STRING_CHARS"]),
      ("uiClientState_t", "updateInfoString", ["MAX_STRING_CHARS"]),
      ("uiClientState_t", "messageString", ["MAX_STRING_CHARS"])] },
  { file := "q3_ui/ui_local.h"
    structs := ["menuframework_s", "menucommon_s", "mfield_t", "menufield_s", "menuslider_s", "menulist_s",
      "menuaction_s", "menuradiobutton_s", "menubitmap_s", "menutext_s", "playerInfo_t",
      "uiStatic_t"]
    lengths := [
      ("menuframework_s", "items", ["MAX_MENUITEMS"]), ("mfield_t", "buffer", ["MAX_EDIT_LINE"]),
      ("playerInfo_t", "animations", ["MAX_ANIMATIONS"]), ("uiStatic_t", "stack", ["MAX_MENUDEPTH"])] },
  { file := "q3_ui/ui_addbots.c"
    structs := ["addBotsMenuInfo_t"]
    lengths := [
      ("addBotsMenuInfo_t", "sortedBotNums", ["MAX_BOTS"])] },
  { file := "q3_ui/ui_cdkey.c"
    structs := ["cdkeyMenuInfo_t"] },
  { file := "q3_ui/ui_cinematics.c"
    structs := ["cinematicsMenuInfo_t"] }]

def part3 : List StructFile := [
  { file := "q3_ui/ui_confirm.c"
    structs := ["confirmMenu_t"] },
  { file := "q3_ui/ui_controls2.c"
    structs := ["bind_t", "configcvar_t", "controls_t"] },
  { file := "q3_ui/ui_credits.c"
    structs := ["creditsmenu_t"] },
  { file := "q3_ui/ui_demo2.c"
    structs := ["demos_t"]
    lengths := [
      ("demos_t", "names", ["NAMEBUFSIZE_DEMOS"]), ("demos_t", "demolist", ["MAX_DEMOS"])] },
  { file := "q3_ui/ui_display.c"
    structs := ["displayOptionsInfo_t"] },
  { file := "q3_ui/ui_ingame.c"
    structs := ["ingamemenu_t"] },
  { file := "q3_ui/ui_loadconfig.c"
    structs := ["configs_t"]
    lengths := [
      ("configs_t", "names", ["NAMEBUFSIZE_CONFIGS"]), ("configs_t", "configlist", ["MAX_CONFIGS"])] },
  { file := "q3_ui/ui_main.c"
    structs := ["cvarTable_t"]
    newNames := [("cvarTable_t", "cvarTable_t_ui")] },
  { file := "q3_ui/ui_menu.c"
    structs := ["mainmenu_t", "errorMessage_t"] },
  { file := "q3_ui/ui_mods.c"
    structs := ["mods_t"]
    lengths := [
      ("mods_t", "description", ["NAMEBUFSIZE_MODS"]), ("mods_t", "fs_game", ["GAMEBUFSIZE"]),
      ("mods_t", "descriptionList", ["MAX_MODS"]), ("mods_t", "fs_gameList", ["MAX_MODS"])] },
  { file := "q3_ui/ui_network.c"
    structs := ["networkOptionsInfo_t"] },
  { file := "q3_ui/ui_options.c"
    structs := ["optionsmenu_t"] },
  { file := "q3_ui/ui_playermodel.c"
    structs := ["playermodel_t"]
    lengths := [
      ("playermodel_t", "pics", ["MAX_MODELSPERPAGE"]),
      ("playermodel_t", "picbuttons", ["MAX_MODELSPERPAGE"]),
      ("playermodel_t", "modelnames", ["MAX_PLAYERMODELS", "128"])] },
  { file := "q3_ui/ui_playersettings.c"
    structs := ["playersettings_t"]
    lengths := [
      ("playersettings_t", "playerModel", ["MAX_QPATH"])] },
  { file := "q3_ui/ui_preferences.c"
    structs := ["preferences_t"]
    lengths := [
      ("preferences_t", "crosshairShader", ["NUM_CROSSHAIRS"])] },
  { file := "q3_ui/ui_removebots.c"
    structs := ["removeBotsMenuInfo_t"]
    lengths := [
      ("removeBotsMenuInfo_t", "botClientNums", ["MAX_BOTS"])] }]

def part4 : List StructFile := [
  { file := "q3_ui/ui_saveconfig.c"
    structs := ["saveConfig_t"] },
  { file := "q3_ui/ui_serverinfo.c"
    structs := ["serverinfo_t"]
    lengths := [
      ("serverinfo_t", "info", ["MAX_INFO_STRING"])] },
  { file := "q3_ui/ui_servers2.c"
    structs := ["pinglist_t", "servernode_t", "table_t"]
    lengths := [
      ("pinglist_t", "adrstr", ["MAX_ADDRESSLENGTH"]),
      ("servernode_t", "adrstr", ["MAX_ADDRESSLENGTH"]),
      ("servernode_t", "hostname", ["MAX_HOSTNAMELENGTH_3"]),
      ("servernode_t", "mapname", ["MAX_MAPNAMELENGTH"]),
      ("table_t", "buff", ["MAX_LISTBOXWIDTH_SERVERS"])] },
  { file := "q3_ui/ui_setup.c"
    structs := ["setupMenuInfo_t"] },
  { file := "q3_ui/ui_sound.c"
    structs := ["soundOptionsInfo_t"] },
  { file := "q3_ui/ui_specifyserver.c"
    structs := ["specifyserver_t"] },
  { file := "q3_ui/ui_splevel.c"
    structs := ["levelMenuInfo_t"]
    lengths := [
      ("levelMenuInfo_t", "levelPicNames", ["4", "MAX_QPATH"]),
      ("levelMenuInfo_t", "playerModel", ["MAX_QPATH"]),
      ("levelMenuInfo_t", "playerPicName", ["MAX_QPATH"])] },
  { file := "q3_ui/ui_sppostgame.c"
    structs := ["postgameMenuInfo_t"]
    lengths := [
      ("postgameMenuInfo_t", "clientNums", ["MAX_SCOREBOARD_CLIENTS"]),
      ("postgameMenuInfo_t", "ranks", ["MAX_SCOREBOARD_CLIENTS"]),
      ("postgameMenuInfo_t", "scores", ["MAX_SCOREBOARD_CLIENTS"])] },
  { file := "q3_ui/ui_spreset.c"
    structs := ["resetMenu_t"] },
  { file := "q3_ui/ui_spskill.c"
    structs := ["skillMenuInfo_t"] },
  { file := "q3_ui/ui_startserver.c"
    structs := ["startserver_t", "serveroptions_t", "botSelectInfo_t"]
    lengths := [
      ("startserver_t", "mappics", ["MAX_MAPSPERPAGE"]),
      ("startserver_t", "mapbuttons", ["MAX_MAPSPERPAGE"]),
      ("startserver_t", "maplist", ["MAX_SERVERMAPS", "MAX_NAMELENGTH_START_SERVER"]),
      ("startserver_t", "mapGamebits", ["MAX_SERVERMAPS"]),
      ("serveroptions_t", "playerType", ["PLAYER_SLOTS"]),
      ("serveroptions_t", "playerName", ["PLAYER_SLOTS"]),
      ("serveroptions_t", "playerTeam", ["PLAYER_SLOTS"]),
      ("serveroptions_t", "playerNameBuffers", ["PLAYER_SLOTS", "16"]),
      ("botSelectInfo_t", "pics", ["MAX_MODELSPERPAGE"]),
      ("botSelectInfo_t", "picbuttons", ["MAX_MODELSPERPAGE"]),
      ("botSelectInfo_t", "picnames", ["MAX_MODELSPERPAGE"]),
      ("botSelectInfo_t", "sortedBotNums", ["MAX_BOTS"]),
      ("botSelectInfo_t", "boticons", ["MAX_MODELSPERPAGE", "MAX_QPATH"]),
      ("botSelectInfo_t", "botnames", ["MAX_MODELSPERPAGE", "16"])] },
  { file := "q3_ui/ui_team.c"
    structs := ["teammain_t"] },
  { file := "q3_ui/ui_teamorders.c"
    structs := ["teamOrdersMenuInfo_t"] },
  { file := "q3_ui/ui_video.c"
    structs := ["driverinfo_t", "graphicsoptions_t", "InitialVideoOptions_s"] }]

def files : List StructFile := List.flatten [part1, part2, part3, part4]

end Disasm.Data.GameStructs
