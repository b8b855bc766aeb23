/-!
# Functions of the server program of the base game

Each line holds an address, the name of the function there and the hash of its code.
-/

namespace Disasm.Data.ServerHashes

def part1 : String := "0x0 vmMain 6e8ca3f5
0x96 G_Printf 71387be
0xaf G_Error -4cc921fd
0xc8 G_FindTeams -68df037a
0x1cc G_RemapTeamShaders -64bac70e
0x1cf G_RegisterCvars -61644230
0x243 G_UpdateCvars -2007089d
0x2b7 G_InitGame 17649847
0x3e6 G_ShutdownGame -3ec1aac7
0x415 Com_Error -270db2c0
0x430 Com_Printf -2fb55fc5
0x44b AddTournamentPlayer 2a2fe522
0x4ca RemoveTournamentLoser -fad74e2
0x4f1 RemoveTournamentWinner -fad74e2
0x518 AdjustTournamentScores -390fbee6
0x56d SortRanks 2fe7c73
0x642 CalculateRanks -43006ce
0x8bb SendScoreboardMessageToAllClients 2a15eaa2
0x8e4 MoveClientToIntermission 49b7ac1c
0x954 FindIntermissionPoint 3f4c0dc0
0x9c2 BeginIntermission 1202a61b
0xa1a ExitLevel -30226cea
0xaa2 G_LogPrintf 48ae9695
0xb0e LogExit -3d530965
0xba0 CheckIntermissionExit -c2e6bbc
0xc61 ScoreIsTied 4f6e5f8f
0xcaa CheckExitRules -15592d29
0xda5 CheckTournament 7411e9eb
0xef9 CheckVote -346db41c
0xf5c PrintTeam -13eed125
0xf87 SetLeader 63ff0789
0x103f CheckTeamLeader adfba34
0x10d7 CheckTeamVote -5219c32f
0x119a CheckCvars 237ae897
0x11c7 G_RunThink -2e148279
0x1200 G_RunFrame 263c2574
0x1381 BotNumActivePlayers -6938f239
0x13f2 BotIsFirstInRankings -147d495f
0x1471 BotIsLastInRankings 13b4bb7
0x14f0 BotFirstClientInRankings -1e70df38
0x157c BotLastClientInRankings 35798a76
0x1608 BotRandomOpponentName 6fb27b40
0x16e7 BotMapTitle -1f2cc3de
0x1708 BotWeaponNameForMeansOfDeath -3f1d9c39
0x1749 BotRandomWeaponName 289451c4
0x1792 BotVisibleEnemies -6e431229
0x181f BotValidChatPosition -6f102d19
0x18e8 BotChat_EnterGame 7208b93
0x199e BotChat_ExitGame -12e584da
0x1a45 BotChat_StartLevel 5e8e1a15
0x1aec BotChat_EndLevel -7f17a31b
0x1c41 BotChat_Death -61ae1b95
0x1ec6 BotChat_Kill -49ac2406
0x2029 BotChat_EnemySuicide -6589ca80
0x20e2 BotChat_HitTalking -682d963d
0x21ce BotChat_HitNoDeath 209076e1
0x22d7 BotChat_HitNoKill -29edc74b
0x23b4 BotChat_Random 29197dd9
0x2544 BotChatTime fd9f37
0x255d BotChatTest -49eb337b
0x2e11 BotGetItemTeamGoal 51b35532
0x2e50 BotGetMessageTeamGoal 20fb437d
0x2e8d BotGetTime -36bf2b8e
0x2f0c FindClientByName -4e4fbf5
0x2f7f FindEnemyByName 723dddc9
0x3012 NumPlayersOnSameTeam -3ec5cec5
0x3069 BotGetPatrolWaypoints -73ce060c
0x31a1 BotAddressedToBot -77ee2d1c
0x32ba BotGPSToPosition -280dd732
0x3352 BotMatch_HelpAccompany -5dba59d4
0x358b BotMatch_DefendKeyArea -3a5f6320
0x3641 BotMatch_GetItem 5861666f
0x36d9 BotMatch_Camp -3bc8a72e
0x38a6 BotMatch_Patrol b8f0d7e
0x3942 BotMatch_GetFlag -14447755
0x39d6 BotMatch_AttackEnemyBase -4b763e27
0x3a56 BotMatch_RushBase 6dc0e048
0x3ad6 BotMatch_TaskPreference 2202bac5
0x3b9e BotMatch_ReturnFlag -7e5fd66f
0x3c11 BotMatch_JoinSubteam -212a9738
0x3c7c BotMatch_LeaveSubteam 3a78d2ff
0x3ce7 BotMatch_WhichTeam -5fd53b09
0x3d45 BotMatch_CheckPoint 1172a612
0x3ea7 BotMatch_FormationSpace 7f998e35
0x3f05 BotMatch_Dismiss e99a80a
0x3f69 BotMatch_Suicide 23709817
0x3fbd BotMatch_StartTeamLeaderShip 1d584df5
0x401c BotMatch_StopTeamLeaderShip 316c536f
0x408d BotMatch_WhoIsTeamLeader 30b6cc46
0x40c1 BotMatch_WhatAreYouDoing 7c425c6e
0x41dc BotMatch_WhatIsMyCommand -40947d24
0x4203 BotNearestVisibleItem 21e66743
0x42a0 BotMatch_WhereAreYou 19ff505f
0x43d2 BotMatch_LeadTheWay -61b08f7a
0x4530 BotMatch_Kill 67a0e0f6
0x45cd BotMatch_CTF -4ed78aff
0x46a6 BotMatch_EnterGame 6cdf003f
0x46cb BotMatch_NewLeader -2b13275a
0x4700 BotMatchMessage -38ae1a23
0x4864 BotResetNodeSwitches 46b58ad7
0x486a BotDumpNodeSwitches 7a99fe83
0x48ab BotRecordNodeSwitch 3ae1f366
0x48e7 BotGetAirGoal -72f57297
0x49a4 BotGoForAir 78e06922
0x4a21 BotNearbyGoal -24ab3c28
0x4a91 BotReachedGoal 35a90aea
0x4b99 BotGetItemLongTermGoal c4f87c4
0x4c30 BotGetLongTermGoal 7c2bd91
0x5b5d BotLongTermGoal -71031218
0x5de2 AIEnter_Intermission -3ee71cab
0x5e1e AINode_Intermission 3d08cea5
0x5e61 AIEnter_Observer 2859fa2
0x5e7d AINode_Observer 2130e75d
0x5e95 AIEnter_Stand 634473a6
0x5eb4 AINode_Stand 595815d3
0x5f5d AIEnter_Respawn -34301375
0x5fe1 AINode_Respawn 4f284adc
0x6061 BotSelectActivateWeapon 5ac99d8e
0x6123 BotClearPath 48b5417c
0x6390 AIEnter_Seek_ActivateEntity -48055787
"

def part2 : String := "0x63a6 AINode_Seek_ActivateEntity -4de7cabb
0x67f5 AIEnter_Seek_NBG -7211b1f6
0x6834 AINode_Seek_NBG -2c44c48c
0x6aba AIEnter_Seek_LTG -7211b1f6
0x6af9 AINode_Seek_LTG 26fc1485
0x6e62 AIEnter_Battle_Fight -7a206f55
0x6e81 AIEnter_Battle_SuicidalFight 41882ff3
0x6eae AINode_Battle_Fight 1e48e738
0x7186 AIEnter_Battle_Chase 70b7ad24
0x71a3 AINode_Battle_Chase 876b3d3
0x7466 AIEnter_Battle_Retreat -48055787
0x747c AINode_Battle_Retreat 6863554f
0x779b AIEnter_Battle_NBG -48055787
0x77b1 AINode_Battle_NBG 11244974
0x7a49 BotSetUserInfo 4164d981
0x7a78 BotCTFCarryingFlag -44600a45
0x7a9b BotTeam -671aed1a
0x7af0 BotOppositeTeam d11b583
0x7b12 BotEnemyFlag 61e3241c
0x7b26 BotTeamFlag 61e3241c
0x7b3a EntityIsDead -458f3dc9
0x7b61 EntityCarriesFlag -378ab1e2
0x7b80 EntityIsInvisible 547297d9
0x7ba1 EntityIsShooting 264b5aed
0x7bb3 EntityIsChatting 264b5aed
0x7bc5 EntityHasQuad 264b5aed
0x7bd7 BotRememberLastOrderedTask -680e3041
0x7c20 BotSetTeamStatus -64bac70e
0x7c23 BotSetLastOrderedTask -7b09cf53
0x7d2b BotRefuseOrder 13aa70a0
0x7d6c BotCTFSeekGoals 64ace1dc
0x8302 BotCTFRetreatGoals 59d448d6
0x834c BotTeamGoals 2887f5a1
0x836f BotPointAreaNum 162a14b2
0x83ae ClientName 50015d3c
0x83fc ClientSkin -30b622ff
0x8444 ClientFromName 18891e49
0x8497 ClientOnSameTeamFromName -628e766d
0x84fa stristr -5d901926
0x855c EasyClientName -183a027b
0x86ed BotSynonymContext -62326262
0x8713 BotChooseWeapon 57a93d0d
0x877a BotSetupForMovement 1762acb2
0x883b BotCheckItemPickup -64bac70e
0x883e BotUpdateInventory 356b8368
0x8afd BotUpdateBattleInventory 20582f52
0x8b43 BotBattleUseItems -139f29c8
0x8b7f BotSetTeleportTime -5037102
0x8baa BotIsDead 5678a0c3
0x8bbf BotIsObserver -5105d833
0x8bf5 BotIntermission -4396a6c9
0x8c1a BotInLavaOrSlime -3a6b594c
0x8c34 BotCreateWayPoint 8b734aa
0x8c92 BotFindWayPoint -3f120503
0x8cbd BotFreeWaypoints 1b748b87
0x8cdc BotInitWaypoints 1e6d6870
0x8d00 TeamPlayIsOn 6ebcc794
0x8d12 BotAggression 2c22a542
0x8df6 BotFeelingBad -70620d48
0x8e27 BotWantsToRetreat -27911b62
0x8e79 BotWantsToChase 2f96a81
0x8ec4 BotWantsToHelp -4cbb5c80
0x8ec9 BotCanAndWantsToRocketJump 5356b4ef
0x8f30 BotHasPersistantPowerupAndWeapon -55d29003
0x9002 BotGoCamp -6964131a
0x907e BotWantsToCamp 1594888c
0x91b0 BotDontAvoid 824706d
0x91e4 BotGoForPowerups 20dab0b2
0x9215 BotRoamGoal 5bd71b35
0x93b2 BotAttackMove -3d5f031f
0x96a0 BotSameTeam -29bfc5d5
0x970e InFieldOfVision 5ed37610
0x9790 BotEntityVisible 4b0448ce
0x99f2 BotFindEnemy -5fd5ca44
0x9c82 BotTeamFlagCarrierVisible -779bab12
0x9cfb BotTeamFlagCarrier -330183ce
0x9d4d BotEnemyFlagCarrierVisible -419147d9
0x9dc6 BotVisibleTeamMatesAndEnemies -6f064aed
0x9e9e BotAimAtEnemy 227e88b
0xa6b4 BotCheckAttack 484893fc
0xa939 BotMapScripts 765e0db1
0xab14 BotSetMovedir 18d058be
0xab4f BotModelMinsMaxs a9f5d1f
0xac47 BotFuncButtonActivateGoal dc1ef4e
0xb16a BotFuncDoorActivateGoal -129491ef
0xb23a BotTriggerMultipleActivateGoal 1ce30248
0xb389 BotPopFromActivateGoalStack 3e302925
0xb3c4 BotPushOntoActivateGoalStack -2e703f2e
0xb45d BotClearActivateGoalStack -51826198
0xb46f BotEnableActivateGoalAreas -7b2bfbbc
0xb4bf BotIsGoingToActivateEntity -13bff31f
0xb52d BotGetActivateGoal -3592a0c
0xb9c4 BotGoForActivateGoal 76b4dd6c
0xba17 BotPrintActivateGoalInfo -3de52bf2
0xba99 BotRandomMove 6f10d4b9
0xbada BotAIBlocked 6e5d54e4
0xbcbd BotAIPredictObstacles -4e1966ed
0xbdb8 BotCheckConsoleMessages -683ddf03
0xbfc3 BotCheckForGrenades -7920260f
0xbff1 BotCheckEvents -3f771502
0xc20e BotCheckSnapshot -43b8ad53
0xc279 BotCheckAir -6aa09b88
0xc29b BotAlternateRoute -12a0d28b
0xc2fe BotGetAlternateRouteGoal -577562b6
0xc3a2 BotSetupAlternativeRouteGoals -21216bbe
0xc3ae BotDeathmatchAI -8ad199a
0xc5bd BotSetEntityNumForGoalWithModel 261b8746
0xc645 BotSetEntityNumForGoal 1df357f4
0xc6b9 BotGoalForBSPEntity 51a31ca4
0xc751 BotSetupDeathmatchAI 7980f06c
0xc83a BotShutdownDeathmatchAI 46b58ad7
0xc840 BotAI_Print 4f5575e4
0xc89a BotAI_Trace 4851ab91
0xc908 BotAI_GetClientState -728ca7ac
0xc939 BotAI_GetEntityState 2ceb5089
0xc97e BotAI_GetSnapshotEntity 5b61e9dc
0xc9af BotAI_BotInitialChat -22e51e0e
0xca31 BotTestAAS 3f011688
0xcaa8 BotReportStatus -53ae0b0a
0xcc30 BotTeamplayReport -6e3386c1
"

def part3 : String := "0xcd23 BotSetInfoConfigString 1bbed36d
0xce8c BotUpdateInfoConfigStrings 3512d761
0xceed BotInterbreedBots -1e5be667
0xcfc6 BotWriteInterbreeded 39924fb
0xd02e BotInterbreedEndMatch 7dec8440
0xd068 BotInterbreeding 7a862cac
0xd0ff BotEntityInfo -42c2702b
0xd10b NumBots -2ac47bb
0xd111 BotTeamLeader 3dc55e03
0xd141 AngleDifference 254f40ca
0xd169 BotChangeViewAngle 7c1ca35
0xd1d5 BotChangeViewAngles -860e0f9
0xd3e0 BotInputToUserCommand 403314ca
0xd6d3 BotUpdateInput 627a5923
0xd790 BotAIRegularUpdate -71e81942
0xd7a1 RemoveColorEscapeSequences -6ef88176
0xd815 BotAI -490b7a82
0xda48 BotScheduleBotThink 26087460
0xda87 BotWriteSessionData 50a659b2
0xdb17 BotReadSessionData -5e8151e0
0xdb94 BotAISetupClient -72e809f9
0xddd5 BotAIShutdownClient 736b6185
0xde74 BotResetState -59a33303
0xdf8d BotAILoadMap -4c51dd4e
0xdfde BotAIStartFrame 167050bb
0xe31c BotInitLibrary -9f3ad01
0xe4fb BotAISetup 52cfdf07
0xe5a5 BotAIShutdown -490d14df
0xe5e3 BotValidTeamLeader 52b86e34
0xe60a BotNumTeamMates -fb515e8
0xe689 BotClientTravelTimeToGoal -48fdc913
0xe6ba BotSortTeamMatesByBaseTravelTime 23b10c2f
0xe7d8 BotSetTeamMateTaskPreference 26b7144d
0xe7fa BotGetTeamMateTaskPreference -22ba819a
0xe831 BotSortTeamMatesByTaskPreference -7ea9094c
0xe931 BotSayTeamOrderAlways -236bbdd9
0xe980 BotSayTeamOrder -4e200767
0xe98c BotVoiceChat -64bac70e
0xe98f BotVoiceChatOnly -64bac70e
0xe992 BotSayVoiceTeamOrder -64bac70e
0xe995 BotCTFOrders_BothFlagsNotAtBase 29c6fceb
0xec5a BotCTFOrders_FlagNotAtBase -1b654beb
0xefd2 BotCTFOrders_EnemyFlagNotAtBase -eb64c58
0xf243 BotCTFOrders_BothFlagsAtBase 66793fdb
0xf5bf BotCTFOrders -6e8e7968
0xf627 BotCreateGroup b23fc70
0xf689 BotTeamOrders b608f26
0xf782 FindHumanTeamLeader -686360c4
0xf7e6 BotTeamAI 2056b13c
0xfa0b BotVoiceChat_GetFlag 67e46b65
0xfa79 BotVoiceChat_Offense -7a6e807b
0xfad8 BotVoiceChat_Defend -63011640
0xfb58 BotVoiceChat_DefendFlag -8338732
0xfb67 BotVoiceChat_Patrol 704e36a3
0xfbab BotVoiceChat_Camp 37a304b6
0xfc86 BotVoiceChat_FollowMe -245de5fd
0xfd6e BotVoiceChat_FollowFlagCarrier -57247207
0xfd8c BotVoiceChat_ReturnFlag 431295ec
0xfdd9 BotVoiceChat_StartLeader -45797347
0xfde9 BotVoiceChat_StopLeader 623d53cd
0xfe15 BotVoiceChat_WhoIsLeader -27183a58
0xfe5f BotVoiceChat_WantOnDefense -1f61f1c8
0xfec2 BotVoiceChat_WantOnOffense -2566875f
0xff25 BotVoiceChat_Dummy -64bac70e
0xff28 BotVoiceChatCommand 33b938a6
0x10066 BG_FindItemForPowerup -39422a47
0x100a9 BG_FindItemForHoldable 6efd71d3
0x100e3 BG_FindItemForWeapon -4cb0f364
0x10116 BG_FindItem 7bb9fc95
0x10141 BG_PlayerTouchesItem -40f17c2e
0x101a1 BG_CanItemBeGrabbed 7b82bab1
0x102d2 BG_EvaluateTrajectory 73ee8816
0x104a2 BG_EvaluateTrajectoryDelta 2c007b0e
0x1059c BG_AddPredictableEventToPlayerstate -58308e0f
0x105d7 BG_TouchJumpPad 9dc6c37
0x10647 BG_PlayerStateToEntityState -398fa699
0x10841 BG_PlayerStateToEntityStateExtraPolate 759f3bc6
0x10a48 PM_AddEvent 32d3f674
0x10a57 PM_AddTouchEnt 4ed760d2
0x10aac PM_StartTorsoAnim -373a5b89
0x10ad2 PM_StartLegsAnim 226559a7
0x10b02 PM_ContinueLegsAnim 79221e18
0x10b22 PM_ContinueTorsoAnim 79221e18
0x10b42 PM_ForceLegsAnim -4714fb91
0x10b52 PM_ClipVelocity -15ac4d29
0x10bcb PM_Friction 6d89bca1
0x10cbe PM_Accelerate -43549caa
0x10d3a PM_CmdScale -7e2ecaae
0x10dde PM_SetMovementDir -1b457817
0x10f2a PM_CheckJump -6a9128f5
0x10fb7 PM_CheckWaterJump -37e7daf6
0x1109e PM_WaterJumpMove -2c8b2b1c
0x110df PM_WaterMove 101eb75b
0x11210 PM_FlyMove 77cab085
0x1129b PM_AirMove 664aa32a
0x1133e PM_GrappleMove 222198f8
0x113f5 PM_WalkMove -1daed539
0x115f1 PM_DeadMove -173e1c24
0x1166a PM_NoclipMove -27fbed85
0x117be PM_FootstepForSurface -4ade2530
0x117d7 PM_CrashLand -25f94cf7
0x118d4 PM_CorrectAllSolid 4dccbe18
0x119bb PM_GroundTraceMissed -1f08df0c
0x11a54 PM_GroundTrace 47d505c7
0x11bc5 PM_SetWaterLevel 6d023df0
0x11c92 PM_CheckDuck -21b414da
0x11de3 PM_Footsteps 544e69b5
0x11f55 PM_WaterEvents -7bf1f80c
0x11fac PM_BeginWeaponChange f06bfd5
0x11ff6 PM_FinishWeaponChange 5df913b6
0x1203e PM_TorsoAnimation -7303f5fe
0x1205d PM_Weapon 64077f7b
0x12283 PM_Animate -2c4e45a6
0x122a8 PM_DropTimers -536f9d2b
0x12332 PM_UpdateViewAngles -7ade14ed
0x123d6 PmoveSingle 2535fb25
0x126a9 Pmove 4905de91
0x12735 PM_SlideMove -5d337693
0x12b25 PM_StepSlideMove -43dd7bbe
0x12cb6 P_DamageFeedback -3da3a7d7
"

def part4 : String := "0x12d79 P_WorldEffects -19fafb8e
0x12f20 G_SetClientSound -7e6c3d8a
0x12f51 ClientImpacts 66e402ce
0x12ff4 G_TouchTriggers -24df1c24
0x131d6 SpectatorThink -32bfcc1
0x1325f ClientInactivityTimer -1941727b
0x13301 ClientTimerActions -4844f20c
0x133ec ClientIntermissionThink 62dbc0
0x13447 ClientEvents 5747b366
0x135c5 SendPendingPredictableEvents -6ed70d9c
0x13671 ClientThink_real 40c1cfa
0x139c8 ClientThink 110abe
0x13a03 G_RunClient -46f6df9f
0x13a2a SpectatorClientEndFrame 18e7529f
0x13aff ClientEndFrame -4bcae4c9
0x13bd7 UpdateTournamentInfo -2553f4c8
0x13d1f SpawnModelOnVictoryPad 3a53e17e
0x13f13 CelebrateStop -6e5e4c5
0x13f3d CelebrateStart 6b07c5f
0x13f70 PodiumPlacementThink 2d00ae03
0x1420c SpawnPodium dcba660
0x142e9 SpawnModelsOnVictoryPads 69a36fe6
0x1438b Svcmd_AbortPodium_f -4ddac5bb
0x143a5 trap_Cvar_VariableValue -69359144
0x143bb G_ParseInfos 475c06a9
0x144a9 G_LoadArenasFromFile -3865640b
0x14529 G_LoadArenas 724eb55c
0x145d3 G_GetArenaInfoByMap -13268b5d
0x1460e PlayerIntroSound -1d4b4136
0x1465f G_AddRandomBot -52977945
0x147cc G_RemoveRandomBot -1f403647
0x14838 G_CountHumanPlayers -c573909
0x1488b G_CountBotPlayers -2db78925
0x14908 G_CheckMinimumPlayers 7a6169b6
0x14a3c G_CheckBotSpawn 2b8185c4
0x14a9a AddBotToSpawnQueue 6f7dfb32
0x14ad5 G_RemoveQueuedBotBegin -727378b1
0x14af9 G_BotConnect -2ceb1f32
0x14b5b G_AddBot 410e68ac
0x14dce Svcmd_AddBot_f 849afa3
0x14e65 Svcmd_BotList_f 1cf49886
0x14f19 G_SpawnBots 1b8483d1
0x14fcb G_LoadBotsFromFile -3865640b
0x1504b G_LoadBots 6c492d1e
0x150d8 G_GetBotInfoByNumber 26bd046c
0x15103 G_GetBotInfoByName 711ed264
0x15142 G_InitBots 6ac2012e
0x15231 SP_info_player_deathmatch -284bb826
0x1526a SP_info_player_start -72debdd5
0x15279 SP_info_player_intermission -64bac70e
0x1527c SpotWouldTelefrag -7108768e
0x152fd SelectNearestDeathmatchSpawnPoint 29e74114
0x15361 SelectRandomDeathmatchSpawnPoint -4fd23372
0x153c1 SelectRandomFurthestSpawnPoint -46346e46
0x15531 SelectSpawnPoint 43ec5409
0x15544 SelectInitialSpawnPoint -4a7328bf
0x155a9 SelectSpectatorSpawnPoint -4f0d7de
0x155b9 InitBodyQue 26d2c2e5
0x155e9 BodySink 2d021004
0x1561b CopyToBodyQue -6f3dd0d7
0x15797 SetClientViewAngle 4d778dd
0x157ef respawn -4503c2c7
0x1581f TeamCount -1f822105
0x15860 TeamLeader -13875fe
0x158a1 PickTeam 171b79f1
0x158db ClientCleanName -3eec6a91
0x159d0 ClientUserinfoChanged -737de64e
0x15cbb ClientConnect -7b91f523
0x15de5 ClientBegin 4758a5bd
0x15e9a ClientSpawn 4da99578
0x16242 ClientDisconnect 236a5a5
0x16359 DeathmatchScoreboardMessage -5c6ae29e
0x16487 Cmd_Score_f -480139be
0x16490 CheatsOk 34094333
0x164ce ConcatArgs -484c4ac7
0x16539 SanitizeString -75f7cbf9
0x1658b ClientNumberFromString 644841ef
0x16657 Cmd_Give_f 4eaa21e3
0x1681e Cmd_God_f 6f9c55f5
0x16863 Cmd_Notarget_f 6f9c55f5
0x168a8 Cmd_Noclip_f 440b97af
0x168fb Cmd_LevelShot_f -2c6c6bbe
0x1692c Cmd_TeamTask_f -3f5b0688
0x16983 Cmd_Kill_f -33b134f5
0x169d5 BroadcastTeamChange -5688fdf0
0x16a4f SetTeam -67af10b3
0x16ca2 StopFollowing 7be4daf6
0x16cf1 Cmd_Team_f -21070ab3
0x16da7 Cmd_Follow_f -574b28a
0x16e41 Cmd_FollowCycle_f 138db4d8
0x16ee6 G_SayTo 4a2d1c0f
0x16f77 G_Say -7333cecf
0x170d9 Cmd_Say_f 2c0c25b3
0x17112 Cmd_Tell_f 521fdfcf
0x171bc G_VoiceTo -6cb8371b
0x17232 G_Voice 255b6550
0x17296 Cmd_Voice_f -13882b57
0x172d2 Cmd_VoiceTell_f -45349919
0x17382 Cmd_VoiceTaunt_f -fffbe
0x17541 Cmd_GameCommand_f 2791ffd4
0x175b6 Cmd_Where_f 3f1e70f3
0x175d8 Cmd_CallVote_f -2fde767f
0x17892 Cmd_Vote_f 522779aa
0x17948 Cmd_CallTeamVote_f 18b90f38
0x17c6e Cmd_TeamVote_f 4b6714b1
0x17d5d Cmd_SetViewpos_f 3a3e08b
0x17dea Cmd_Stats_f -64bac70e
0x17ded ClientCommand -3c156584
0x180c5 ScorePlum 6227c200
0x180fa AddScore 5958d0e1
0x18148 TossClientItems -732961b2
0x18222 LookAtKiller -aa40838
0x182f4 GibEntity 42320550
0x1835f body_die 267e79b4
0x1837f CheckAlmostCapture -4a1e6a54
0x18460 CheckAlmostScored 5b1ca025
0x184fb player_die 6ef3479d
0x18911 CheckArmor 50a27c1b
0x1896e RaySphereIntersections 47653632
0x18b18 G_Damage -72712e52
"

def part5 : String := "0x18ed1 CanDamage -6193485b
0x18ffc G_RadiusDamage -2e4777e7
0x19179 Pickup_Powerup 4b9a2d0c
0x192cc Pickup_Holdable 71a7edf8
0x192fd Add_Ammo 724277f9
0x19334 Pickup_Ammo -5bb71cc7
0x19365 Pickup_Weapon 4c0851df
0x19424 Pickup_Health -4a530bda
0x194aa Pickup_Armor 7441a372
0x194ee RespawnItem 60a2eb9d
0x19626 Touch_Item -79df7020
0x1985d LaunchItem -3f4ad885
0x19929 Drop_Item 63047584
0x1998c Use_Item -480139be
0x19995 FinishSpawningItem 422e7a79
0x19aec G_CheckTeamItems 63e564ed
0x19b3e ClearRegisteredItems -7dac4af7
0x19b62 RegisterItem 4953dda0
0x19b7a SaveRegisteredItems 490aff3
0x19bc2 G_ItemDisabled 6ec6e0c3
0x19bdb G_SpawnItem -566fd2eb
0x19c3d G_BounceItem de56300
0x19d9f G_RunItem a8a11be
0x19e6d G_Alloc -bd2a4da
0x19eb8 G_InitMemory 46b58ad7
0x19ebe Svcmd_GameMem_f 38f7294f
0x19ecb SP_info_camp -4ffe2bde
0x19edd SP_info_null -480139be
0x19ee6 SP_info_notnull -4ffe2bde
0x19ef8 SP_light -480139be
0x19f01 TeleportPlayer -6155c5f8
0x1a02c SP_misc_teleporter_dest -64bac70e
0x1a02f SP_misc_model -480139be
0x1a038 locateCamera -ec7deb6
0x1a117 SP_misc_portal_surface -73dc48aa
0x1a189 SP_misc_portal_camera 7aab2e07
0x1a1df Use_Shooter 18e2b17f
0x1a305 InitShooter_Finish -1e448410
0x1a329 InitShooter -6c938498
0x1a397 SP_shooter_rocket -80c7723
0x1a3a2 SP_shooter_plasma -80c7723
0x1a3ad SP_shooter_grenade -80c7723
0x1a3b8 G_BounceMissile 5fcd4e2b
0x1a4cf G_ExplodeMissile 5dd5205a
0x1a575 G_MissileImpact 2c7f1016
0x1a82e G_RunMissile 1838256f
0x1a91b fire_plasma 7100620e
0x1a9f8 fire_grenade 1cdf561a
0x1aadb fire_bfg 7100620e
0x1abb8 fire_rocket 7100620e
0x1ac95 fire_grapple -3126ba92
0x1ad6c G_TestEntityPosition 4a90920
0x1ade9 G_CreateRotationMatrix -7ac9b732
0x1ae0b G_TransposeMatrix 678a67aa
0x1ae4c G_RotatePoint 17d3ef09
0x1aeb8 G_TryPushingEntity 55370c50
0x1b14d G_CheckProxMinePosition 353bef90
0x1b1ea G_TryPushingProxMine 1be830a9
0x1b31c G_MoverPush 36f1030e
0x1b62c G_MoverTeam 4af42ffa
0x1b75f G_RunMover -29b971bb
0x1b790 SetMoverState 668845b4
0x1b8cf MatchTeam fbbeca0
0x1b8ef ReturnToPos1 38081141
0x1b924 Reached_BinaryMover -8a56644
0x1b9eb Use_BinaryMover -67d57452
0x1bb1c InitMover 4b155de4
0x1bcb1 Blocked_Door 57230ac9
0x1bd2f Touch_DoorTriggerSpectator 4703ea34
0x1be08 Touch_DoorTrigger 28c50dc4
0x1be5a Think_SpawnNewDoorTrigger -195b46d2
0x1bf55 Think_MatchTeam -3145c323
0x1bf6b SP_func_door -25278f40
0x1c129 Touch_Plat 538317d9
0x1c150 Touch_PlatCenterTrigger -7e79985c
0x1c179 SpawnPlatTrigger -1dfebeb
0x1c267 SP_func_plat -1eb74602
0x1c36e Touch_Button -36d79b5c
0x1c391 SP_func_button 4c748362
0x1c4cf Think_BeginMoving 213ab9db
0x1c4df Reached_Train 47d6fd75
0x1c5c4 Think_SetupTrainTargets 4dffbd92
0x1c67b SP_path_corner 5aab3fe2
0x1c69c SP_func_train -581724d4
0x1c731 SP_func_static -3ab5c833
0x1c764 SP_func_rotating -4600228d
0x1c80a SP_func_bobbing -2568e8b9
0x1c8bc SP_func_pendulum -4ff66eaf
0x1c975 G_WriteClientSessionData 3e8f32b4
0x1c9cb G_ReadSessionData -716eed59
0x1ca24 G_InitSessionData -5de749ca
0x1cab1 G_InitWorldSession -50205e2e
0x1cad4 G_WriteSessionData -2a84c3aa
0x1cb0f G_SpawnString -2c6c84ae
0x1cb53 G_SpawnFloat -590d4787
0x1cb75 G_SpawnInt -590d4787
0x1cb97 G_SpawnVector 6a953f5c
0x1cbc6 SP_item_botroam -64bac70e
0x1cbc9 G_CallSpawn -4936a330
0x1cc48 G_NewString 29c7092c
0x1cccc G_ParseField -386979b0
0x1cdb4 G_SpawnGEntityFromSpawnVars -1e81055c
0x1ce9f G_AddSpawnVarToken 5674e9dd
0x1cee0 G_ParseSpawnVars 79f6c4e6
0x1cf70 SP_worldspawn 35b2cc95
0x1d03c G_SpawnEntitiesFromString 440c08cb
0x1d065 StringToFilter 359376b8
0x1d12d UpdateIPBans 59c03ca0
0x1d1da G_FilterPacket 7c023160
0x1d28a AddIP 3a4059e7
0x1d2e0 G_ProcessIPBans -18897296
0x1d336 Svcmd_AddIP_f -696af670
0x1d356 Svcmd_RemoveIP_f 5278d7ef
0x1d3be Svcmd_EntityList_f 464f9cc7
0x1d478 ClientForString 617d7f8e
0x1d50f Svcmd_ForceTeam_f -26f4bca0
0x1d545 ConsoleCommand 18e5f27e
0x1d648 Use_Target_Give -63c647a8
0x1d6a2 SP_target_give 68dcd152
0x1d6ab Use_target_remove_powerups -3628525
"

def part6 : String := "0x1d6f7 SP_target_remove_powerups 68dcd152
0x1d700 Think_Target_Delay 2c76828f
0x1d713 Use_Target_Delay -5809bb3a
0x1d74e SP_target_delay -1e85485a
0x1d781 Use_Target_Score 28c253c0
0x1d799 SP_target_score 1ce9dc05
0x1d7af Use_Target_Print 584940a9
0x1d836 SP_target_print 68dcd152
0x1d83f Use_Target_Speaker -1678267c
0x1d8b2 SP_target_speaker -37d68e
0x1d9af target_laser_think -5e4661f8
0x1db0b target_laser_on 380068f0
0x1db26 target_laser_off 4eb0ef1e
0x1db35 target_laser_use 655d874f
0x1db54 target_laser_start -407c21ab
0x1dbe5 SP_target_laser -470f3e35
0x1dbf7 target_teleporter_use 276ab741
0x1dc2c SP_target_teleporter 2ca1c865
0x1dc53 target_relay_use -2b5f647c
0x1dce4 SP_target_relay 68dcd152
0x1dced target_kill_use 3773055b
0x1dd0e SP_target_kill 68dcd152
0x1dd17 SP_target_position -4ffe2bde
0x1dd29 target_location_linkup -6c44daab
0x1dd99 SP_target_location -17bc37c3
0x1ddba Team_InitGame -24bd0958
0x1dde5 OtherTeam -a6ed2c5
0x1ddfb TeamName 3781e79a
0x1de18 OtherTeamName 3781e79a
0x1de35 TeamColorString 3781e79a
0x1de52 PrintMsg -777f4061
0x1dea8 AddTeamScore 21d0b733
0x1df33 OnSameTeam -6e63391b
0x1df7b Team_SetFlagStatus 7e42c448
0x1dfe7 Team_CheckDroppedItem 4e7829ea
0x1e021 Team_ForceGesture 4518d390
0x1e066 Team_FragBonuses 21d05faf
0x1e5f2 Team_CheckHurtCarrier -7b6e777a
0x1e688 Team_ResetFlag 349c38a8
0x1e6f2 Team_ResetFlags -489b7dc
0x1e703 Team_ReturnFlagSound -46f758e4
0x1e740 Team_TakeFlagSound 76c311ee
0x1e7af Team_CaptureFlagSound -46f758e4
0x1e7ec Team_ReturnFlag -38dcb47
0x1e81d Team_FreeEntity -510d76d3
0x1e851 Team_DroppedFlagThink 528c4998
0x1e892 Team_TouchOurFlag 65c6c7a9
0x1eb11 Team_TouchEnemyFlag 769c23a2
0x1eb6e Pickup_Team 4663202e
0x1ebd8 Team_GetLocation -6f0cf7f1
0x1ec52 Team_GetLocationMsg -41c2a307
0x1ecb9 SelectRandomTeamSpawnPoint -5138934c
0x1ed55 SelectCTFSpawnPoint -92d9ccc
0x1ed9a SortClients -c4a966a
0x1eda5 TeamplayInfoMessage 130ef64b
0x1ef03 CheckTeamStatus 77c0fe02
0x1efb8 SP_team_CTF_redplayer -64bac70e
0x1efbb SP_team_CTF_blueplayer -64bac70e
0x1efbe SP_team_CTF_redspawn -64bac70e
0x1efc1 SP_team_CTF_bluespawn -64bac70e
0x1efc4 InitTrigger -1f7969d5
0x1f003 multi_wait 68dcd152
0x1f00c multi_trigger 3b1a58b
0x1f0b9 Use_Multi -22758d30
0x1f0c5 Touch_Multi 4f4b5e4b
0x1f0da SP_trigger_multiple -13c464e7
0x1f139 trigger_always_think -3e28a602
0x1f14f SP_trigger_always -23645dd3
0x1f161 trigger_push_touch 103e4544
0x1f179 AimAtTarget -6d0c82e9
0x1f27e SP_trigger_push 23e9115c
0x1f2bb Use_target_push -40e92487
0x1f30a SP_target_push -12ebf4a1
0x1f3c8 trigger_teleporter_touch -6f95754
0x1f41e SP_trigger_teleport 52c3b214
0x1f465 hurt_use 3c1e84e6
0x1f47d hurt_touch 69d8b987
0x1f4fc SP_trigger_hurt -7f009cb7
0x1f549 func_timer_think a33a45b
0x1f587 func_timer_use 488c3e31
0x1f5a6 SP_func_timer 284f2e84
0x1f620 AddRemap -15dc646d
0x1f68f BuildShaderStateConfig 6156c004
0x1f6d5 G_FindConfigstringIndex -6817f6e
0x1f741 G_ModelIndex -5dd4443f
0x1f754 G_SoundIndex -5dd4443f
0x1f767 G_TeamCommand -654df3c
0x1f7a5 G_Find -19014934
0x1f7f4 G_PickTarget 2b308286
0x1f85a G_UseTargets -3613e102
0x1f8f9 tv 375d3aab
0x1f927 vtos -40f21f0d
0x1f963 G_SetMovedir -51ac3130
0x1f9b8 vectoyaw b9b610c
0x1fa12 G_InitGentity 23939099
0x1fa34 G_Spawn -6afdc104
0x1fae2 G_EntitiesFree 2b86e654
0x1fb0d G_FreeEntity -1c3d2019
0x1fb3c G_TempEntity -74d5b1ce
0x1fb8a G_KillBox -3b62582a
0x1fc56 G_AddPredictableEvent -2f0277d3
0x1fc71 G_AddEvent 7769d76b
0x1fcea G_Sound -3cad717e
0x1fd03 G_SetOrigin 53f60da0
0x1fd42 DebugLine 669ddb45
0x1fe45 G_BounceProjectile -7a21224e
0x1ff04 Weapon_Gauntlet -64bac70e
0x1ff07 CheckGauntletAttack -759640f5
0x1fffd SnapVectorTowards 37f8bd08
0x20046 Bullet_Fire 77685d53
0x201c7 BFG_Fire 55a84026
0x201fb ShotgunPellet 5dbcc0c8
0x20282 ShotgunPattern -51e848f3
0x20367 weapon_supershotgun_fire -40f8d4a2
0x203e6 weapon_grenadelauncher_fire -7a8b9ce3
0x2042a Weapon_RocketLauncher_Fire 55a84026
0x2045e Weapon_Plasmagun_Fire 55a84026
0x20492 weapon_railgun_fire 603f229a
0x206a2 Weapon_GrapplingHook_Fire 363499d8
0x206cd Weapon_HookFree 68e05e84
"

def part7 : String := "0x206f6 Weapon_HookThink 4380702a
0x2077c Weapon_LightningFire 2003ad72
0x2087f LogAccuracyHit -7d91da6
0x208ce CalcMuzzlePoint -bc1c503
0x20958 CalcMuzzlePointOrigin 2011efa0
0x209e2 FireWeapon 307ab284
0x20abc Q_rand -9237ddd
0x20ad1 Q_random 269cb597
0x20ae3 Q_crandom 1446ae9f
0x20af4 VectorCompare -2ac60b4c
0x20b2c VectorLength 9db4615
0x20b5f VectorLengthSquared 7251510d
0x20b8b Distance 3253a2a0
0x20bcc DistanceSquared 5c3f3606
0x20c1a VectorNormalizeFast 298c01b3
0x20c79 VectorInverse -4076a305
0x20ca1 CrossProduct -64f836e
0x20d1a ClampChar 2180e3cb
0x20d31 ClampShort 740806e
0x20d48 DirToByte 241b7a27
0x20da3 ByteToDir -cd05348
0x20dc1 ColorBytes3 124c69b9
0x20e30 ColorBytes4 -7aeaa05b
0x20ec2 NormalizeColor 10019a6
0x20f38 PlaneFromPoints -47c2bbc2
0x20ff6 RotatePointAroundVector 12c0bbdd
0x21101 RotateAroundDirection -725aa774
0x21145 vectoangles -d1a5869
0x21201 AnglesToAxis 3b564061
0x21236 AxisClear -3e014c8
0x2126d AxisCopy -408ae08b
0x21291 ProjectPointOnPlane 78d7f1a8
0x2134c MakeNormalVectors 1177080b
0x213f7 VectorRotate 44b085ed
0x21494 Q_rsqrt 2db2b109
0x214cb Q_fabs -4655c38d
0x214db LerpAngle 4ccf1903
0x2150c AngleSubtract 78605e9e
0x21531 AnglesSubtract -15be7664
0x2157f AngleMod 16ea6a15
0x21591 AngleNormalize360 2d1c29cd
0x2159f AngleNormalize180 50f1dbbe
0x215ba AngleDelta a09bc6a
0x215ca SetPlaneSignbits f9ff3d0
0x215f7 BoxOnPlaneSide -41d9d8d8
0x219b8 RadiusFromBounds -4d85b6cd
0x21a0b ClearBounds -818e1a5
0x21a42 AddPointToBounds 41ffad57
0x21adb VectorNormalize -67c82bfd
0x21b4b VectorNormalize2 45236424
0x21bd9 _VectorMA 739882a
0x21c1b _DotProduct 47b4f428
0x21c50 _VectorSubtract -14e59bb3
0x21c89 _VectorAdd -12c9c172
0x21cc2 _VectorCopy -46194af2
0x21ce9 _VectorScale -6b43ab1c
0x21d19 Vector4Scale -20190a8d
0x21d5b Q_log2 1d696e03
0x21d7a MatrixMultiply f1d3ad8
0x21f4f AngleVectors 3d39955c
0x22047 PerpendicularVector 2b5c319b
0x220b3 Com_Clamp b42b554
0x220cd COM_SkipPath -7890e297
0x220f1 COM_StripExtension 18e9ca28
0x22127 COM_DefaultExtension -52747e97
0x2216f ShortSwap -3bbffb33
0x2218f ShortNoSwap -71140ad4
0x2219a LongSwap 7afadc87
0x221cd LongNoSwap -4cbdf135
0x221d3 Long64Swap 2d420e5d
0x22210 Long64NoSwap -bb3c22
0x22218 FloatSwap -299d1867
0x2222e FloatNoSwap 1e5f19fa
0x22235 COM_BeginParseSession 6e5dc4ed
0x22247 COM_GetCurrentParseLine -2ac47bb
0x2224d COM_Parse 6a6528ae
0x2225c COM_ParseError -61f78d4c
0x2227c COM_ParseWarning -61f78d4c
0x2229c SkipWhitespace -1740a178
0x222d3 COM_Compress -47e3d24e
0x22426 COM_ParseExt 5e0fbe8
0x22572 COM_MatchToken 214c706e
0x2259b SkipBracedSection -68f58843
0x225d9 SkipRestOfLine -66722e6b
0x22611 Parse1DMatrix -5dfdb3d8
0x22650 Parse2DMatrix -69c8f842
0x2268b Parse3DMatrix -56528b06
0x226d0 Q_isprint -31452673
0x226e5 Q_islower -31452673
0x226fa Q_isupper -31452673
0x2270f Q_isalpha 5b5b2ecf
0x22730 Q_strrchr -67b7e59a
0x22764 Q_strncpyz -1f6fe6d7
0x2279f Q_stricmpn -732323fa
0x2282a Q_strncmp 53e5f934
0x2287c Q_stricmp -12528a0d
0x228a4 Q_strlwr 2cb7e721
0x228ca Q_strupr 2cb7e721
0x228f0 Q_strcat 3eb8ac19
0x2291c Q_PrintStrlen -1d33f11b
0x2296c Q_CleanStr -7f41eb17
0x229d2 Com_sprintf -63c465ea
0x22a11 va 543eff22
0x22a3e Info_ValueForKey -fbaa4dc
0x22b1e Info_NextPair 2b78359a
0x22bbc Info_RemoveKey 39369abb
0x22c8c Info_RemoveKey_Big 2d0980fa
0x22d5c Info_Validate -2175fdd6
0x22d83 Info_SetValueForKey 3074aec7
0x22e53 Info_SetValueForKey_Big -4daf929c
0x22f1b swapfunc -4bec0e3
0x22fa2 med3 -472d498c
0x23025 qsort -5d3c407d
0x233de strlen 3ccc7232
0x233f9 strcat 2574254d
0x2343c strcpy 20e861a
0x23471 strcmp 1a08c4e
0x234aa strchr -3619ff05
0x234c9 strstr 9ea96f5
0x2350f tolower 288c5baf
"

def part8 : String := "0x23527 toupper -248d83c2
0x2353f memmove -5c34248c
0x23586 tan -2dee6193
0x2359d srand 757355f2
0x235a4 rand -36fb9fa
0x235b9 atof -1a4a66d7
0x2367e _atof -9ed1716
0x23749 atoi 79498fe2
0x237c1 _atoi -6ce6b7c
0x23843 abs 5e5d0172
0x23858 fabs 63aa0337
0x2386d AddInt 2e3dd69
0x23948 AddFloat -1ab6e21e
0x23a56 AddString -4a7aa31f
0x23aed vsprintf 3df41e94
0x23c85 sscanf 6d3737da
"

def text : String := String.join [part1, part2, part3, part4, part5, part6, part7, part8]

end Disasm.Data.ServerHashes
